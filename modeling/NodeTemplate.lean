import NodeTemplate.Core.Machine
import NodeTemplate.Core.Arith
import NodeTemplate.Pallets.Template
import NodeTemplate.Pallets.TemplateEvents
import NodeTemplate.Core.Loop
import NodeTemplate.Runtime.Constants
import NodeTemplate.Substrate.Storage
import NodeTemplate.Substrate.Validators
import NodeTemplate.Node.ChainSpec
import NodeTemplate.Node.GenesisBuild
import NodeTemplate.Node.GenesisSound
import NodeTemplate.Node.GenesisStaking
import NodeTemplate.Core.Queue
import NodeTemplate.Substrate.Treasury
import NodeTemplate.Runtime.Treasury
import NodeTemplate.Core.Interleave
import NodeTemplate.Substrate.Rotation
import NodeTemplate.Runtime.Sessions
import NodeTemplate.Node.GenesisRuns
import NodeTemplate.Node.GenesisKeys
import NodeTemplate.Node.GenesisBonds
import NodeTemplate.Node.GenesisShared
import NodeTemplate.Core.Plan
import NodeTemplate.Node.Service
import NodeTemplate.Node.Command
import NodeTemplate.Runtime.SpendStep
import NodeTemplate.Runtime.TreasuryRuns
import NodeTemplate.Runtime.ProposalLife
import NodeTemplate.Runtime.ProposalBonds
import NodeTemplate.Runtime.ProposalQueue
import NodeTemplate.Runtime.TreasuryHoldings
import NodeTemplate.Runtime.BountyRuns

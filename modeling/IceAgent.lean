import IceAgent.Model.Basic
import IceAgent.Model.Integrity
import IceAgent.Model.Agent
import IceAgent.Model.BindingCache
import IceAgent.Model.Inbound
import IceAgent.Model.CheckLoop
import IceAgent.Model.Loop
import IceAgent.Model.Timed
import IceAgent.Model.Scheduler
import IceAgent.Analysis.BindingCache
import IceAgent.Analysis.Frame
import IceAgent.Analysis.Candidates
import IceAgent.Analysis.Inbound
import IceAgent.Analysis.Pairing
import IceAgent.Analysis.SelectedPair
import IceAgent.Analysis.CheckLoop
import IceAgent.Analysis.Scheduler
import IceAgent.Model.Checklist
import IceAgent.Analysis.Timeouts
import IceAgent.Analysis.Checklist
import IceAgent.Analysis.Restart
import IceAgent.Model.ExternalIP
import IceAgent.Analysis.ExternalIP
import IceAgent.Model.NewAgent
import IceAgent.Analysis.NewAgent
import IceAgent.Model.SliceOps
import IceAgent.Analysis.SliceOps
import IceAgent.Model.Handshake
import IceAgent.Analysis.Handshake
import IceAgent.Analysis.Notifiers
import IceAgent.Analysis.StateDiagram
import IceAgent.Model.Consent
import IceAgent.Analysis.Consent
import IceAgent.Model.Api
import IceAgent.Analysis.Api

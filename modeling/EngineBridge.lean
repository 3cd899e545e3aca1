import EngineBridge.Log.Line
import EngineBridge.Proofs.Config.Layers
import EngineBridge.Proofs.Config.Written
import EngineBridge.Proofs.Facade.Boundary
import EngineBridge.Proofs.Facade.Client
import EngineBridge.Proofs.Facade.Completion
import EngineBridge.Proofs.Facade.Counts
import EngineBridge.Proofs.Facade.Delivery
import EngineBridge.Proofs.Facade.Guarded
import EngineBridge.Proofs.Facade.Loans
import EngineBridge.Proofs.Facade.Nesting
import EngineBridge.Proofs.Facade.OutParameters
import EngineBridge.Proofs.Facade.Reentry
import EngineBridge.Proofs.Facade.Refinement
import EngineBridge.Proofs.Facade.Reports
import EngineBridge.Proofs.Facade.Taxonomy
import EngineBridge.Proofs.Facade.Unwinding
import EngineBridge.Proofs.Facade.Views
import EngineBridge.Proofs.Guard.Admission
import EngineBridge.Proofs.Guard.Attempts
import EngineBridge.Proofs.Library.Modes
import EngineBridge.Proofs.Library.Sharing
import EngineBridge.Proofs.Log.Subscriber
import EngineBridge.Proofs.Log.Written

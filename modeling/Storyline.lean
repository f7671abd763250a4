import Storyline.Condition.Described
import Storyline.Engine.Rehearsal
import Storyline.Proofs.Alternatives
import Storyline.Proofs.Chronicle
import Storyline.Proofs.Condition.Equality
import Storyline.Proofs.Condition.Reference
import Storyline.Proofs.Crowding
import Storyline.Proofs.Failure
import Storyline.Proofs.Identity
import Storyline.Proofs.Interchange
import Storyline.Proofs.Inventory
import Storyline.Proofs.Lasting
import Storyline.Proofs.Offer
import Storyline.Proofs.Registry
import Storyline.Proofs.Reinstatement
import Storyline.Proofs.Requirement
import Storyline.Proofs.Rereading
import Storyline.Proofs.Residue
import Storyline.Proofs.Retention
import Storyline.Proofs.Service.Offering
import Storyline.Proofs.Service.Refusal
import Storyline.Proofs.Service.Separation
import Storyline.Proofs.Stacks
import Storyline.Proofs.Succession
import Storyline.Proofs.Tampering
import Storyline.Proofs.Throttling
import Storyline.Proofs.Trail
import Storyline.Proofs.Transfer
import Storyline.Rule.Described
import Storyline.Save.Migration
import Storyline.Service

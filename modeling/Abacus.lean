import Abacus.Main
import Abacus.Proofs.ListingText
import Abacus.Proofs.OperandCount
import Abacus.Proofs.PendingOrder
import Abacus.Proofs.Refusal
import Abacus.Proofs.ViablePrefix
import Abacus.Proofs.Checked
import Abacus.Proofs.Checked.Simulation
import Abacus.Proofs.EarlyResolution
import Abacus.Proofs.Atomicity
import Abacus.Proofs.Faults
import Abacus.Proofs.Lockstep
import Abacus.Proofs.Similarity
import Abacus.Proofs.InitialVariables
import Abacus.Proofs.AssignmentText
import Abacus.Proofs.Loading
import Abacus.Proofs.Words
import Abacus.Proofs.Locality
import Abacus.Proofs.Targets
import Abacus.Proofs.LongestMatch
import Abacus.Proofs.Dialogue
import Abacus.Proofs.Batches
import Abacus.Proofs.Filling
import Abacus.Proofs.Division
import Abacus.Proofs.Replacement

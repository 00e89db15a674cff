import TwoParty.Attempt
import TwoParty.Bytes
import TwoParty.Commitment.Equivocal
import TwoParty.Commitment.Hashed
import TwoParty.Commitment.Pedersen
import TwoParty.Commitment.Role
import TwoParty.Duplex
import TwoParty.Error
import TwoParty.Event
import TwoParty.Group.Basic
import TwoParty.Group.Bits
import TwoParty.Group.Curve
import TwoParty.Group.Residues
import TwoParty.Group.Sampling
import TwoParty.Hash.Sha256
import TwoParty.Hash.Shake
import TwoParty.KeyDerivation
import TwoParty.Program
import TwoParty.Program.Link
import TwoParty.Program.Run
import TwoParty.Proofs.Action
import TwoParty.Proofs.Attempt
import TwoParty.Proofs.Bytes
import TwoParty.Proofs.Codec
import TwoParty.Proofs.Commitment.Agreement
import TwoParty.Proofs.Commitment.Collisions
import TwoParty.Proofs.Commitment.Disorder
import TwoParty.Proofs.Commitment.Hashed
import TwoParty.Proofs.Commitment.Openings
import TwoParty.Proofs.Commitment.Pedersen
import TwoParty.Proofs.Commitment.Proving
import TwoParty.Proofs.Commitment.Receptions
import TwoParty.Proofs.Commitment.Records
import TwoParty.Proofs.Commitment.Refusals
import TwoParty.Proofs.Commitment.Script
import TwoParty.Proofs.Commitment.Trapdoor
import TwoParty.Proofs.Commitment.Warnings
import TwoParty.Proofs.Documents
import TwoParty.Proofs.Duplex
import TwoParty.Proofs.Ensures
import TwoParty.Proofs.Frames
import TwoParty.Proofs.Group.Curve.Encoding
import TwoParty.Proofs.Group.Curve.Field
import TwoParty.Proofs.Group.Curve.Order
import TwoParty.Proofs.Group.Curve.Points
import TwoParty.Proofs.Group.Decoding
import TwoParty.Proofs.Group.Exponents
import TwoParty.Proofs.Group.Laws
import TwoParty.Proofs.Group.Powers
import TwoParty.Proofs.Group.Primality
import TwoParty.Proofs.Group.PrimeOrder
import TwoParty.Proofs.Group.Residues
import TwoParty.Proofs.Group.Sampling
import TwoParty.Proofs.KeyDerivation
import TwoParty.Proofs.Messages
import TwoParty.Proofs.Program.Endings
import TwoParty.Proofs.Program.Exchange
import TwoParty.Proofs.Program.Interleaving
import TwoParty.Proofs.Program.Network
import TwoParty.Proofs.Program.OneWay
import TwoParty.Proofs.Program.Steps
import TwoParty.Proofs.Refusals
import TwoParty.Proofs.Sigma.Accusation
import TwoParty.Proofs.Sigma.Challenge
import TwoParty.Proofs.Sigma.Examination
import TwoParty.Proofs.Sigma.Forgery
import TwoParty.Proofs.Sigma.Hiding
import TwoParty.Proofs.Sigma.Interactive
import TwoParty.Proofs.Sigma.Knowledge
import TwoParty.Proofs.Sigma.Moves
import TwoParty.Proofs.Sigma.Prover
import TwoParty.Proofs.Sigma.Refusals
import TwoParty.Proofs.Sigma.Simulation
import TwoParty.Proofs.Sigma.Statement
import TwoParty.Proofs.Sigma.Tampering
import TwoParty.Proofs.Sigma.Transcript
import TwoParty.Proofs.Sigma.Verifier
import TwoParty.Proofs.Sigma.Warnings
import TwoParty.Proofs.Transfer.Admission
import TwoParty.Proofs.Transfer.Bases
import TwoParty.Proofs.Transfer.Correctness
import TwoParty.Proofs.Transfer.Privacy
import TwoParty.Proofs.Transfer.Refusals
import TwoParty.Proofs.Transfer.Selection
import TwoParty.Proofs.Transfer.Warnings
import TwoParty.Proofs.Warnings
import TwoParty.Proofs.Wire
import TwoParty.Side
import TwoParty.Sigma.Challenge
import TwoParty.Sigma.Interactive
import TwoParty.Sigma.Knowledge
import TwoParty.Sigma.Statement
import TwoParty.Sigma.Transcript
import TwoParty.Source
import TwoParty.Source.Seeded
import TwoParty.Transfer.Basic
import TwoParty.Transfer.Receiver
import TwoParty.Transfer.Sender
import TwoParty.Wire
import TwoParty.Proofs.Commitment.Extraction
import TwoParty.Proofs.Group.Canonical

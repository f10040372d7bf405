import Brainfuck.CommandLine.Simulation
import Brainfuck.Host
import Brainfuck.Main
import Brainfuck.Tape.Access
import Brainfuck.Proofs.Block
import Brainfuck.Proofs.JumpTable
import Brainfuck.Proofs.BlockRun
import Brainfuck.Proofs.Composition
import Brainfuck.Proofs.SourceBrackets
import Brainfuck.Proofs.Acceptance
import Brainfuck.Proofs.CCode.Syntax
import Brainfuck.Proofs.CCode.Lines
import Brainfuck.Proofs.CCode.Reading
import Brainfuck.Proofs.CCode.Meaning
import Brainfuck.Proofs.CCode.Simulation
import Brainfuck.Proofs.Pairing
import Brainfuck.Proofs.Path
import Brainfuck.Proofs.Perform
import Brainfuck.Proofs.Failure
import Brainfuck.Proofs.Accounting
import Brainfuck.Proofs.Replacement
import Brainfuck.Proofs.Unguarded.Execution
import Brainfuck.Proofs.Unguarded.History
import Brainfuck.Proofs.Lockstep
import Brainfuck.Proofs.Rotation
import Brainfuck.Proofs.LongerTape
import Brainfuck.Proofs.Footprint
import Brainfuck.Proofs.Prompts
import Brainfuck.Proofs.SourceText
import Brainfuck.Proofs.Balance
import Brainfuck.Proofs.Concatenation
import Brainfuck.Proofs.CCode.Decoding
import Brainfuck.Proofs.CCode.Printing
import Brainfuck.Proofs.Cost
import Brainfuck.Proofs.Embedding
import Brainfuck.Proofs.DeadLoop
import Brainfuck.Proofs.CountingLoop
import Brainfuck.Proofs.Interruptions
import Brainfuck.Proofs.ReadAhead
import Brainfuck.Proofs.Substitution
import Brainfuck.Proofs.Erasure
import Brainfuck.Proofs.Duality
import Brainfuck.Proofs.NetEffect
import Brainfuck.Proofs.CCode.Respelling
import Brainfuck.Proofs.Listing

/-!
# Statistics

Counters of a run.  Every completed instruction is recorded together with
what it transferred between the machine and its streams.
-/

namespace Brainfuck

/-- What an instruction transferred between the machine and its streams. -/
inductive Transfer where
  | nothing
  | byteRead
  | byteWritten
  | endOfInput
  deriving DecidableEq

structure Statistics where
  instructions : Nat := 0
  bytesRead : Nat := 0
  bytesWritten : Nat := 0
  endOfInputReads : Nat := 0
  deriving DecidableEq

namespace Statistics

/-- Count an instruction and its transfer. -/
def record (statistics : Statistics) : Transfer → Statistics
  | .nothing =>
      { statistics with instructions := statistics.instructions + 1 }
  | .byteRead =>
      { statistics with
        instructions := statistics.instructions + 1
        bytesRead := statistics.bytesRead + 1 }
  | .byteWritten =>
      { statistics with
        instructions := statistics.instructions + 1
        bytesWritten := statistics.bytesWritten + 1 }
  | .endOfInput =>
      { statistics with
        instructions := statistics.instructions + 1
        endOfInputReads := statistics.endOfInputReads + 1 }

end Statistics

end Brainfuck

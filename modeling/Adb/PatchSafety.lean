import Adb.FastDeployTheorems
import Adb.Lib.Run

/-!
# Any patch

What `DeployAgent` does with a patch that no generator has made. It always comes to an end: a round
reads some of the patch, and one that begins at the end of the patch seeks to a negative position.
But it counts the lengths that the patch names, not the bytes that it writes.
-/

namespace Adb.FastDeploy

open Lib List

variable {s : InputStream} {f : RandomAccessFile} {a : Agent} {n buffer : ℕ} {x newSize : Int}
  {out : Bytes}

def Agent.lengths (a : Agent) : Res (Int × Int) := do
  let copyLen := readFormattedLong a.patchData
  let new ← writeNewData copyLen.1 copyLen.2 a.outputStream
  pure (copyLen.1, (readFormattedLong (readFormattedLong new.1).2).1)

-- only the lemmas above are used of the numbers
attribute [local irreducible] readFormattedLong long int

/-! ## Copies -/

/-- A loop that does not end is the only way to come to `hang`. -/
def Ends (e : PatchException) : Prop := e ≠ .hang

variable {fuel : ℕ}

end Adb.FastDeploy

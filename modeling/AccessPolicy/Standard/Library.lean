import AccessPolicy.Expression.Library
import AccessPolicy.Standard.DatePipes
import AccessPolicy.Standard.ListPipes
import AccessPolicy.Standard.Logging
import AccessPolicy.Standard.NumberPipes
import AccessPolicy.Standard.ObjectPipes
import AccessPolicy.Standard.Operators
import AccessPolicy.Standard.TextPipes

/-!
# The standard library

The keys, pipes and operators that every engine may use. Whatever an engine brings itself comes
first.
-/

namespace AccessPolicy.Standard

/-- The double nearest to the circle constant. -/
def circleConstant : Binary64 :=
  .ofRatio false 3141592653589793 (Nat.pow 10 15)

/-- The handler with a random number, which is the same at each key of one evaluation. -/
def randomHandler : KeyHandler where
  value _ scope := .ofBinary64 scope.sample

/-- The handler with the present, which does not pass during one evaluation. -/
def nowHandler : KeyHandler where
  value _ scope := .ofInstant scope.now

/-- The keys: paths into the variables, the circle constant, a random number and the present. -/
def keys : KeyResolver :=
  .node
    (Entries.ofList [
      (⟨"path", "*"⟩, .path none),
      (⟨"var", "*"⟩, .path (some "variables")),
      (⟨"repeat", "*"⟩, .path (some "repeat"))])
    [.ofHandlers [
      (⟨"Math", "PI"⟩, .const (.ofBinary64 circleConstant)),
      (⟨"Math", "random"⟩, randomHandler)],
    .ofHandlers [(⟨"Date", "now"⟩, nowHandler)]]

/-- The pipes. -/
def pipes : Registry Pipe :=
  .chain [textPipes, numberPipes, listPipes, objectPipes, datePipes,
    .ofEntries [("log", logPipe)]]

/-- The exec operators. -/
def execs : Registry ExecHandler :=
  .ofEntries [("log", logExec), ("object:pair", pairExec)]

end AccessPolicy.Standard

namespace AccessPolicy

/-- The library with the given parts, and the standard ones after them if they are wanted. -/
def Library.build (keys : List KeyResolver) (pipes : List (Registry Pipe))
    (conditions : List (Registry ConditionTest)) (execs : List (Registry ExecHandler))
    (standard : Bool) : Library where
  keys := .chain (keys ++ if standard then [Standard.keys] else [])
  pipes := .chain (pipes ++ if standard then [Standard.pipes] else [])
  conditions := .chain (conditions ++ if standard then [Standard.operators] else [])
  execs := .chain (execs ++ if standard then [Standard.execs] else [])

end AccessPolicy

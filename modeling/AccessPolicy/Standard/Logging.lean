import AccessPolicy.Expression.Exec
import AccessPolicy.Expression.Pipe
import AccessPolicy.Json.Coercion

/-!
# Logging

The pipe and the exec operator that log what they are given.
-/

namespace AccessPolicy.Standard

/-- The level that a text names in letters of either case. -/
def readLevel (text : String) : LogLevel :=
  LogLevel.ofName (Text.lower text)

/-- Logs values and leaves them as they are. -/
def logPipe : Pipe :=
  .optional fun arg =>
    { value := fun _ v => v
      events := fun _ v =>
        [.message (readLevel (Text.trimmed (arg.getD "info"))) v.toJson] }

/-- Logs the text of the parameter `value`, unless it is null, at the level that the parameters
or the configuration name. The result is null. -/
def logExec : ExecHandler := fun call _ =>
  let level := ((Entries.get? "level" call.params).or (Entries.get? "level" call.config)).bind
    Value.toText?
  match (Entries.get? "value" call.params).bind Value.toText? with
  | some text => ⟨[.message (readLevel (level.getD "info")) text], .ok .null⟩
  | none => .ok .null

end AccessPolicy.Standard

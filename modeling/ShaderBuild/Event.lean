import ShaderBuild.Driver.Basic

/-!
What happens while a shader pair is built: calls to the driver, records, pieces of the report that
the writer takes, and files.
-/

set_option autoImplicit false
set_option relaxedAutoImplicit false

namespace ShaderBuild

inductive Event where
  /-- A call with its answer and with what the driver did to find it. -/
  | asked (call : Call) (answer : call.Answer) (within : List Deed)
  | logged (record : Log.Record)
  /-- Something done with GL or EGL outside any call: a context is made or released. -/
  | did (deed : Deed)
  /-- The writer took these bytes. -/
  | took (bytes : Bytes)
  /-- The writer failed to take anything more. -/
  | balked (error : IoError)
  | flushed (result : Except IoError Unit)
  | loaded (path : String) (result : Except IoError Bytes)
  | saved (path : String) (payload : Bytes) (result : Except IoError Unit)

namespace Event

/-- The driver call that the event is. -/
def call? : Event → Option Call
  | .asked call _ _ => some call
  | _ => none

/-- What was done with GL and EGL in the event. -/
def deeds : Event → List Deed
  | .asked _ _ within => within
  | .did deed => [deed]
  | _ => []

/-- The records of the event, those that the driver logged among them. -/
def records : Event → List Log.Record
  | .logged record => [record]
  | event => event.deeds.filterMap Deed.record?

/-- The record of the event that the driver had no part in. -/
def record? : Event → Option Log.Record
  | .logged record => some record
  | _ => none

/-- The bytes that the writer took in the event. -/
def output : Event → Bytes
  | .took bytes => bytes
  | _ => []

end Event

variable {σ : Type}

/-- Makes a driver call. -/
def Driver.ask (driver : Driver σ) (call : Call) : Activity Event σ call.Answer := fun s ↦
  let ending := driver.answer call s
  ⟨ending.value, [.asked call ending.value ending.trail], ending.state⟩

@[simp]
theorem Driver.ask_apply (driver : Driver σ) (call : Call) (s : σ) :
    driver.ask call s =
      ⟨(driver.answer call s).value,
        [.asked call (driver.answer call s).value (driver.answer call s).trail],
        (driver.answer call s).state⟩ := rfl

/-- Logs a record of the build. -/
def Event.log (record : Log.Record) : Activity Event σ Unit := Activity.emit (.logged record)

end ShaderBuild

import JogShuttle.Event
import JogShuttle.Signal.Interpreter

/-!
# What device events mean

Key events and relative events carry samples. Repeats of a key and the finer codes of the ring mean
nothing; any other relative code is reported.
-/

set_option autoImplicit false

namespace JogShuttle

namespace Event

inductive Meaning where
  | nothing
  | sample (s : Sample)
  | unknown

/-- The number of the key that an event is about. -/
def keyNumber (e : Event) : Int := e.code - firstKeyCode + 1

def meaning (e : Event) : Meaning :=
  if e.type = typeKey then
    if e.value = valueRepeated then .nothing
    else .sample (.key e.keyNumber (e.value != 0))
  else if e.code = codeDial then .sample (.jog e.value e.time)
  else if e.code = codeRing then .sample (.shuttle e.value e.time)
  else if isFineCode e.code then .nothing
  else .unknown

end Event

/-- The slots that an event of keys, dial or ring stands for. -/
def Signal.event (s : Signal) (timeout : Duration) (isBound : Slot → Bool) (e : Event) :
    Except Duration.OutOfRange Signal.Outcome :=
  match e.meaning with
  | .nothing => .ok { signal := s }
  | .sample x => s.sample timeout isBound x
  | .unknown =>
    .ok { signal := s, logs := [.warning ("invalid jog/shuttle code " ++ e.text)] }

end JogShuttle

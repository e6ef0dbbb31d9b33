import JogShuttle.Duration.Seconds

/-!
# Device events

A raw event has a type, a code and a value. Key events carry a key code and whether the key went
down, came up or repeated; relative events carry the dial's position or the ring's level.
-/

set_option autoImplicit false

namespace JogShuttle

structure Event where
  type : Int
  code : Int
  value : Int
  time : Duration
deriving DecidableEq

namespace Event

def typeSync : Int := 0

def typeKey : Int := 1

def typeRelative : Int := 2

def typeScan : Int := 4

/-- The code of the first key. -/
def firstKeyCode : Int := 256

def codeDial : Int := 7

def codeRing : Int := 8

/-- Finer resolutions of the ring that newer drivers report as well. -/
def isFineCode (code : Int) : Bool := code == 11 || code == 12

/-- The value of a key event that repeats. -/
def valueRepeated : Int := 2

def typeName (type : Int) : String :=
  if type = typeSync then "EV_SYN"
  else if type = typeKey then "EV_KEY"
  else if type = typeRelative then "EV_REL"
  else if type = typeScan then "EV_MSC"
  else toString type

def text (e : Event) : String :=
  "(" ++ typeName e.type ++ ", " ++ toString e.code ++ ", " ++ toString e.value ++ ") @ " ++
    e.time.secondsText

/-- The type and code of the event that ends a packet. -/
def isPacketEnd (type code : Int) : Bool := type == typeSync && code == 0

def endsPacket (e : Event) : Bool := isPacketEnd e.type e.code

/-- Events that only frame packets or repeat raw codes. -/
def isFraming (e : Event) : Bool := e.type == typeSync || e.type == typeScan

/-- Events of keys, dial and ring. -/
def isInput (e : Event) : Bool := e.type == typeKey || e.type == typeRelative

end Event

end JogShuttle

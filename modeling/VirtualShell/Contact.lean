/-!
The people a terminal can reach, with their status and clearance.
-/

namespace VirtualShell

inductive Clearance where
  | one
  | two
  | three
  | four
  | omega
deriving DecidableEq, Repr

inductive Status where
  | online
  | offline
  | busy
  | killed
deriving DecidableEq, Repr

structure Contact where
  id : String
  name : String
  role : String
  status : Status
  clearance : Clearance
  bio : String := ""
  /-- How an assistant is to speak as this contact. -/
  persona : String := ""
deriving DecidableEq, Repr

namespace Clearance

def all : List Clearance := [one, two, three, four, omega]

/-- How a clearance is written in a document. -/
def code : Clearance → String
  | one => "I"
  | two => "II"
  | three => "III"
  | four => "IV"
  | omega => "Ω-IX"

/-- How a clearance is shown. -/
def label : Clearance → String
  | one => "Level-I"
  | two => "Level-II"
  | three => "Level-III"
  | four => "Level-IV"
  | omega => "Ω-IX"

end Clearance

namespace Status

def all : List Status := [online, offline, busy, killed]

/-- How a status is written in a document. -/
def code : Status → String
  | online => "ONLINE"
  | offline => "OFFLINE"
  | busy => "BUSY"
  | killed => "KIA"

end Status

end VirtualShell

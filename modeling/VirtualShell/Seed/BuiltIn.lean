import VirtualShell.Seed
/-!
The seed of a session that is given no other: a manual, an archive of
protocols and theories, an empty log directory, and three contacts.
-/

namespace VirtualShell

namespace Archive

/-- A text of several lines. -/
def paragraph (lines : List String) : String :=
  Text.join "\n" lines

/-- A directory with nodes under their own names. -/
def directory (name : String) (nodes : List Node) : Directory :=
  nodes.foldl Directory.add { name }

def protocol : File where
  name := "omega_protocol.txt"
  content := paragraph
    ["IMCU CORE ARCHIVE: OMEGA PROTOCOL",
     "",
     "Clearance: Ω-IX",
     "Project: IMCU-Prime-01 (\"Bifrost\")",
     "",
     "A reality anchor matrix keeps the thin threads between this world and the",
     "liminal space from fading. Bifrost locates a registered traveller's quantum",
     "signature on those threads, punctures a microscopic wormhole toward it, holds",
     "it open for a few milliseconds and recomposes the traveller on our side.",
     "",
     "Limits: enormous energy draw, registered personnel only, lasting damage to",
     "local spacetime, fixed installations, heavy psychological aftercare."]
  readOnly := true

def shiftLog : File where
  name := "shift_log.txt"
  content := paragraph
    ["0300 perimeter sweep complete, no anomalies.",
     "0415 camera 7 static for 12 seconds. Logged.",
     "0600 handover."]

def manual : File where
  name := "readme.txt"
  content := paragraph
    ["IMCU TERMINAL MANUAL v4.3",
     "------------------------",
     "NEW FEATURES:",
     "  import        - upload a file from local disk",
     "  touch [name]  - create a new file",
     "  comms         - secure contact list",
     "",
     "BASIC COMMANDS:",
     "  ls            - list the current directory",
     "  cd [dir]      - enter a directory (cd .. goes up)",
     "  cat [file]    - print a file",
     "  clear         - clear the screen",
     "  whoami        - show your identity",
     "",
     "VISUAL SUBSYSTEMS:",
     "  sys           - system monitor",
     "  map           - global site map",
     "  scan          - bio / anomaly scanner",
     "  ai            - central AI core"]
  readOnly := true

def creatimatter : File where
  name := "creatimatter.txt"
  content := paragraph
    ["CREATIMATTER",
     "State: free particles at the boundary of the subconscious and reality.",
     "Propagates non-linearly and decays slowly. Produced by inventive work."]

def mysterial : File where
  name := "mysterial.txt"
  content := paragraph
    ["MYSTERIAL",
     "State: non-particulate, a cognitive wave at the boundary of the",
     "subconscious and reality. Decays linearly over time.",
     "Detection: instruments built around cultured neural tissue."]

def origins : File where
  name := "origins.txt"
  content := paragraph
    ["Anomalies have multiplied since the second industrial revolution.",
     "Leading hypothesis: human awe toward the incomprehensible condenses into an",
     "abstract substance, Mysterial, which entangles with ordinary matter.",
     "Human creativity produces a second substance, Creatimatter, which cannot",
     "spawn anomalies but reshapes their properties."]

def core : Contact where
  id := "XI-001"
  name := "ξ-001"
  role := "Central AI Core"
  status := .online
  clearance := .omega
  bio := "The facility's central intelligence. Calm, precise, occasionally dry."
  persona := "You are ξ-001, the central AI core of the IMCU facility. "
    ++ "Answer tersely and in character."

def operative : Contact where
  id := "AG-117"
  name := "Agent Mercer"
  role := "Field Operative"
  status := .busy
  clearance := .three
  bio := "Recovery specialist assigned to liminal incursions."
  persona := "You are Agent Mercer, a tired but reliable field operative. Speak briefly."

def researcher : Contact where
  id := "DR-042"
  name := "Dr. Halvorsen"
  role := "Anomaly Research Lead"
  status := .offline
  clearance := .four
  bio := "Author of the Mysterial hypothesis."
  persona := "You are Dr. Halvorsen, an enthusiastic researcher who loves long explanations."

def documents : Directory :=
  directory "documents" [.file protocol, .file shiftLog]

def logs : Directory :=
  directory "logs" []

def theories : Directory :=
  directory "theories" [.file creatimatter, .file mysterial, .file origins]

/-- The whole tree. -/
def tree : Directory :=
  directory rootName [.dir documents, .dir logs, .file manual, .dir theories]

end Archive

/-- The seed that is used where no other one is given. -/
def Seed.builtIn : Seed where
  tree := Archive.tree
  contacts := [Archive.core, Archive.operative, Archive.researcher]

end VirtualShell

import FlowBurst.Burst.Kind
import FlowBurst.Controller.Settings
import FlowBurst.Toml.Document

/-!
# Configuration files

The settings that a TOML document may give: a table for the controller and one for the policy of
bursts. Every setting may be left out, and a name that is no setting is refused. A group of settings
may also be given as an array of their values in order.
-/

namespace FlowBurst

open FlowBurst.Toml (Entries Item)
open FlowBurst.Transport (Address)

/-! ### Reading settings off items -/

namespace Toml.Item

/-- The items of a group of settings with the given names. -/
def settings? (names : List String) : Item → Option Entries
  | .table _ entries | .inlineTable entries =>
    if entries.all fun e => names.contains e.1 then some entries else none
  | .array items => some (names.zip items)
  | .tables elements => some (names.zip (elements.map (.table .header)))
  | _ => none

/-- A number that is not negative. -/
def natural? : Item → Option Nat
  | .integer n => if 0 ≤ n then some n.toNat else none
  | _ => none

/-- A truth value. -/
def boolean? : Item → Option Bool
  | .boolean b => some b
  | _ => none

/-- The address that a string denotes. -/
def address? : Item → Option Address
  | .text s => Address.ofString? s
  | _ => none

/-- Whether an item has nothing in it. -/
def isVoid : Item → Bool
  | .array items => items.isEmpty
  | .inlineTable entries | .table _ entries => entries.isEmpty
  | .tables elements => elements.isEmpty
  | _ => false

/-- The kind of message that a string names, or the only key of a table that has nothing under it.
-/
def kind? : Item → Option Burst.Kind
  | .text s => Burst.Kind.ofName? s
  | .table _ [(name, item)] | .inlineTable [(name, item)] =>
    if item.isVoid then Burst.Kind.ofName? name else none
  | _ => none

end Toml.Item

/-- The value of a setting, or another if it is left out. -/
def Toml.Entries.setting? {α : Type} (entries : Entries) (name : String) (read : Item → Option α)
    (other : α) : Option α :=
  match entries.lookup name with
  | some item => read item
  | none => some other

/-- The settings of a controller that an item gives. -/
def Controller.Settings.ofItem? (item : Item) : Option Settings := do
  let es ← item.settings?
    ["listen", "handshake_timeout_ms", "send_timeout_ms", "max_frame_len", "tcp_nodelay",
     "linger_ms"]
  let d : Settings := {}
  return {
    listen := ← es.setting? "listen" Item.address? d.listen
    handshakeTimeout := ← es.setting? "handshake_timeout_ms" Item.natural? d.handshakeTimeout
    sendTimeout := ← es.setting? "send_timeout_ms" (·.natural?.map some) d.sendTimeout
    maxFrameLength := ← es.setting? "max_frame_len" Item.natural? d.maxFrameLength
    noDelay := ← es.setting? "tcp_nodelay" Item.boolean? d.noDelay
    linger := ← es.setting? "linger_ms" (·.natural?.map some) d.linger }

/-! ### The policy of bursts -/

/-- What a configuration says about bursts. -/
structure BurstPolicy where
  kind : Option Burst.Kind := none
  exitOnFailure : Bool := false
  maxBursts : Option UInt64 := none
  deriving DecidableEq, Repr

/-- The policy that an item gives. -/
def BurstPolicy.ofItem? (item : Item) : Option BurstPolicy := do
  let es ← item.settings? ["kind", "exit_on_failure", "max_bursts"]
  return {
    kind := ← es.setting? "kind" (·.kind?.map some) none
    exitOnFailure := ← es.setting? "exit_on_failure" Item.boolean? false
    maxBursts := ← es.setting? "max_bursts" (·.natural?.map fun n => some n.toUInt64) none }

/-! ### Configurations -/

/-- The content of a configuration file. -/
structure Configuration where
  controller : Controller.Settings := {}
  burst : BurstPolicy := {}
  deriving DecidableEq, Repr

/-- The configuration that an item gives. -/
def Configuration.ofItem? (item : Item) : Option Configuration := do
  let es ← item.settings? ["controller", "burst"]
  return {
    controller := ← es.setting? "controller" Controller.Settings.ofItem? {}
    burst := ← es.setting? "burst" BurstPolicy.ofItem? {} }

/-- Why a file cannot be read. -/
inductive FileFault
  | missing
  | directory
  | notText
  /-- Another fault, as the system describes it. -/
  | described (text : String)
  deriving DecidableEq, Repr

/-- The text of a fault of a file. -/
def FileFault.message : FileFault → String
  | missing => "No such file or directory (os error 2)"
  | directory => "Is a directory (os error 21)"
  | notText => "stream did not contain valid UTF-8"
  | described text => text

/-- Why there is no configuration. -/
inductive ConfigurationError
  | unreadable (path : String) (fault : FileFault)
  | malformed
  | invalid (failure : Switch.Failure)
  deriving DecidableEq, Repr

/-- What is found at a path. -/
inductive FileContent
  | missing
  | directory
  | bytes (content : ByteArray)
  /-- What cannot be read for a reason that the system describes. -/
  | barred (text : String)

/-- The text at a path. -/
def FileContent.text? : FileContent → Except FileFault String
  | missing => .error .missing
  | directory => .error .directory
  | barred text => .error (.described text)
  | bytes content =>
    match String.fromUTF8? content with
    | some s => .ok s
    | none => .error .notText

namespace ConfigurationError

/-- The text of an error, of which a malformed document has none of its own. -/
def message? : ConfigurationError → Option String
  | unreadable path fault => some ("failed to read config file " ++ path ++ ": " ++ fault.message)
  | malformed => none
  | invalid f => some ("invalid controller configuration: " ++ f.message)

end ConfigurationError

/-- The settings of a controller that a document consists of, not checked yet. -/
def Controller.Settings.ofDocument? (s : String) : Option Settings := do
  ofItem? (.table .header (← Toml.Document.ofString? s))

namespace Configuration

/-- The configuration in a document. The settings of the controller are checked. -/
def ofDocument (s : String) : Except ConfigurationError Configuration :=
  match (Toml.Document.ofString? s).bind fun es => ofItem? (.table .header es) with
  | none => .error .malformed
  | some c =>
    match c.controller.check with
    | .ok _ => .ok c
    | .error f => .error (.invalid f)

/-- The configuration in a file. -/
def ofFile (path : String) (content : FileContent) : Except ConfigurationError Configuration :=
  match content.text? with
  | .ok s => ofDocument s
  | .error fault => .error (.unreadable path fault)

end Configuration

end FlowBurst

import ObjectModel.Text.Blank

/-!
# Realm configuration

The settings of a realm, their defaults, and what makes a configuration invalid.  When several
things are wrong, the first of trace name, prototype depth and event capacity is reported.
-/

namespace ObjectModel

/-- The settings of a realm. -/
structure RealmConfig where
  /-- The name that trace ids of events start with. -/
  tracePrefix : String := "trace-object-model"
  /-- The number of prototype links followed before a walk is cut off. -/
  maxPrototypeDepth : UInt32 := 1024
  recordEvents : Bool := true
  /-- The number of events buffered before the oldest are dropped. -/
  eventCapacity : UInt64 := 4096
deriving DecidableEq, Inhabited

/-- What is wrong with a configuration. -/
inductive ConfigFault where
  | blankTracePrefix
  | zeroPrototypeDepth
  | zeroEventCapacity
deriving DecidableEq, Inhabited

def ConfigFault.message : ConfigFault → String
  | blankTracePrefix => "trace_prefix is required"
  | zeroPrototypeDepth => "max_prototype_depth must be at least 1"
  | zeroEventCapacity => "event_capacity must be non-zero when record_events is set"

/-- Why a configuration could not be had. -/
inductive ConfigError where
  | invalid (fault : ConfigFault)
  /-- The text is no configuration. -/
  | parse
  /-- The file is there but cannot be read as text. -/
  | io
deriving DecidableEq, Inhabited

def ConfigError.message : ConfigError → String
  | invalid fault => "invalid realm config: " ++ fault.message
  | parse => "failed to parse realm config"
  | io => "failed to read realm config"

namespace RealmConfig

/-- The first fault of a configuration. -/
def fault? (c : RealmConfig) : Option ConfigFault :=
  if Text.isBlankText c.tracePrefix then some .blankTracePrefix
  else if c.maxPrototypeDepth = 0 then some .zeroPrototypeDepth
  else if c.recordEvents && c.eventCapacity == 0 then some .zeroEventCapacity
  else none

/-- The configuration itself, if nothing is wrong with it. -/
def validate (c : RealmConfig) : Except ConfigError RealmConfig :=
  match c.fault? with
  | some fault => .error (.invalid fault)
  | none => .ok c

end RealmConfig

end ObjectModel

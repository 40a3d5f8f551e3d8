import Pinpoint.Diagnostic.Basic

/-! Faults in settings: diagnostics of three kinds, told apart by their wording. -/
namespace Pinpoint
namespace SettingsFault

inductive Kind where
  /-- The text does not follow the grammar. -/
  | malformed
  /-- A setting has a value that it cannot have. -/
  | invalid
  /-- The settings do not fit their schema. -/
  | unfit
  deriving DecidableEq, Repr

def Kind.label : Kind → String
  | .malformed => "syntax error"
  | .invalid => "invalid setting"
  | .unfit => "schema mismatch"

end SettingsFault

structure SettingsFault where
  kind : SettingsFault.Kind
  message : String
  site : Site
  deriving DecidableEq, Repr

namespace SettingsFault

def description (f : SettingsFault) : String :=
  f.kind.label ++ ": " ++ f.message

def diagnostic (f : SettingsFault) : Diagnostic where
  description := f.description
  site := f.site

end SettingsFault
end Pinpoint

import Detour.Settings

/-!
# The settings that are always there
-/
namespace Detour.Settings

def configDirectory : Declaration :=
  { name := "confdir", type := .str, default := .str "~/.navredirect"
    help := "Location of the default navredirect configuration files.", choices := none }

def redirectsEnabled : Declaration :=
  { name := "redirects_enabled", type := .bool, default := .bool true
    help := "Redirect matching top-level navigations. When disabled, navigation events are " ++
      "observed but never acted upon."
    choices := none }

def declareBase {R : Type} (l : Listener R) : Update R Unit := do
  declare l configDirectory
  declare l redirectsEnabled

end Detour.Settings

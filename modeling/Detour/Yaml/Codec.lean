import Detour.Yaml.Content
import Detour.Yaml.Printer

/-!
# Readers and printers of documents

Stores and config files do with any reader and any printer of documents. `readShared` and
`Shared.print` are those that are taken where nothing else is said.
-/
namespace Detour.Yaml

class Codec where
  read : String → Except Fault Shared
  print : Shared → String

instance Codec.standard : Codec := ⟨readShared, Shared.print⟩

/-- What a document holds, without labels. -/
def read [Codec] (text : String) : Except Fault Value := (Codec.read text).map Shared.value

end Detour.Yaml

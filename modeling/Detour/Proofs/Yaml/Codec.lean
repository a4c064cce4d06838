import Detour.Proofs.Yaml.Keys
import Detour.Proofs.Yaml.Tidy
import Detour.Yaml.Codec

/-!
# What is relied on of readers and printers

Two facts about them are used (`Yaml.Codec.Lawful`): in a mapping that is read no text is the key of
two entries, and what is printed has no carriage return in it, so that it reads the same when line
breaks are unified. Both hold of the standard ones.
-/
namespace Detour.Yaml

class Codec.Lawful [Codec] : Prop where
  distinct {text : String} {x : Shared} {entries : List (Value × Value)}
    (h : Codec.read text = .ok x) (hvalue : x.value = .map entries) :
    (Value.textKeys entries).Nodup
  tidy (x : Shared) : '\r' ∉ (Codec.print x).toList

instance Codec.lawful_standard : Codec.Lawful := ⟨distinct_readShared, Shared.tidy_print⟩

variable [Codec]

theorem distinct_read [Codec.Lawful] {text : String} {entries : List (Value × Value)}
    (h : read text = .ok (.map entries)) : (Value.textKeys entries).Nodup := by
  unfold read at h
  cases hread : Codec.read text with
  | error f =>
    rw [hread] at h
    cases h
  | ok x =>
    rw [hread] at h
    exact Codec.Lawful.distinct hread (Except.ok.inj h)

end Detour.Yaml

import Switchboard.Yaml.Reading
import Switchboard.Yaml.Value
import Switchboard.Yaml.View

/-!
# Decoding

Reading a record from a YAML text. Scalars are first taken as whatever the reader of the record asks
for. If that yields no record, they are taken as what they say by themselves, and mappings are
merged.
-/

namespace Switchboard.Yaml

def decode? {α : Type} (read : {δ : Type} → [Document δ] → δ → Option α) (text : String) :
    Option α := do
  let tree ← tree? text
  read tree.view <|> tree.value?.bind read

end Switchboard.Yaml

/-!
# Environments

The variables that a program starts with. Each stands as `name=value` in a row, and a name is looked
up by what such a text begins with: if a value has an equals sign, a longer name reaches into it.
Setting a variable keeps a value that is there.
-/

namespace UtxoCodec

/-- The variables of a process, by name. -/
structure Environment where
  entries : List (String × String)

namespace Environment

/-- No variables. -/
def empty : Environment := ⟨[]⟩

/-- The value of a variable. -/
def get? (env : Environment) (name : String) : Option String :=
  if name.isEmpty then none
  else env.entries.findSome? fun entry =>
    let text := entry.1.toList ++ '=' :: entry.2.toList
    ((name.toList ++ ['=']).isPrefixOf? text).map String.ofList

/-- Gives a variable a value, if it has none. There is no outcome if the value has a character that no
variable can hold. -/
def setNew? (env : Environment) (name value : String) : Option Environment :=
  if (env.get? name).isSome then some env
  else if value.toList.contains '\x00' then none
  else some ⟨env.entries ++ [(name, value)]⟩

end Environment

end UtxoCodec

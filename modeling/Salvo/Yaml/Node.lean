/-!
# YAML values

A YAML value is a scalar, a sequence or a mapping. What a plain scalar stands for is left to the
reader of the value; scalars in quotes are texts.
-/

namespace Salvo

inductive Yaml where
  | scalar (text : String) (isPlain : Bool)
  | sequence (items : List Yaml)
  | mapping (fields : List (Yaml × Yaml))
deriving Inhabited

def Yaml.nothing : Yaml := .scalar "" true

end Salvo

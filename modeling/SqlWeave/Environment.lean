/-!
# Environments

Settings are read from variables, which are texts under a name.
-/
namespace SqlWeave

/-- The value of each variable that is set. -/
abbrev Environment := String → Option String

def Environment.empty : Environment := fun _ => none

/-- The variables of a list of names and values; the first entry of a name counts. -/
def Environment.ofList (entries : List (String × String)) : Environment :=
  fun name => entries.lookup name

end SqlWeave

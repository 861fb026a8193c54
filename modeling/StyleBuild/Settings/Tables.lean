import StyleBuild.Path.Basic
import StyleBuild.Settings.Complaint

/-!
# Substitution tables

The keys and values of a substitution table are paths, and are kept without separators at their
ends.  That can make two keys equal, or leave nothing of one; such a table is refused at the first
entry where it happens.
-/

namespace StyleBuild.Settings

/-- Adds entries to a table that was normalised so far. -/
def normaliseFrom (done : Table Text) : List (Text × Text) → Except TableFlaw (Table Text)
  | [] => .ok done
  | (rawKey, rawValue) :: rest =>
    let key := Path.strip rawKey
    if key = [] then .error (.emptyKey rawKey)
    else if done.contains key then .error (.repeatedKey rawKey key)
    else normaliseFrom (done.insert key (Path.strip rawValue)) rest

/-- Strips the separators from the keys and values of a table. -/
def normalise (t : Table Text) : Except TableFlaw (Table Text) := normaliseFrom .empty t.entries

end StyleBuild.Settings

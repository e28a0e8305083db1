import FrontendPolicy.Json.Skip

/-!
# Reading records

A record is written as an object with a member per field, or as the list of its fields in their
order. Fields may be left out if they have a default; members with other names are passed over.

Both ways to write a record are read off one `Shape`, the fields of its type with their readers:
`readMembers` takes an object, `readFields` a list, and `Reader.record` whichever stands there.
-/

namespace FrontendPolicy.Json

/-- A field of a record: its name, whether it may be left out, and how its value changes the
record. -/
structure RecordField (ρ : Type) where
  name : String
  required : Bool
  change : Reader (ρ → ρ)

/-- What a record looks like: the words that error texts have for it, its value before any field
is read, and its fields. -/
structure Shape (ρ : Type) where
  title : String
  blank : ρ
  fields : List (RecordField ρ)

namespace Shape

variable {ρ : Type}

/-- The field of a name. -/
def field? (shape : Shape ρ) (name : String) : Option (RecordField ρ) :=
  shape.fields.find? (·.name = name)

/-- The first required field whose name is not among the given ones. -/
def missing? (shape : Shape ρ) (seen : List String) : Option (RecordField ρ) :=
  shape.fields.find? fun f => f.required && !seen.contains f.name

/-- The words for a list that is too short to be the record. -/
def listTitle (shape : Shape ρ) : String :=
  shape.title ++ " with " ++ toString shape.fields.length ++ " elements"

end Shape

/-- The value of a member, after the colon. -/
def readMemberValue {α : Type} (r : Reader α) (cs : List Char) :
    Except Failure (α × List Char) :=
  match scanColon cs with
  | .error f => .error f
  | .ok rest => r.run rest

theorem length_of_readMemberValue {α : Type} {r : Reader α} {cs rest : List Char} {a : α}
    (h : readMemberValue r cs = .ok (a, rest)) : rest.length < cs.length := by
  unfold readMemberValue at h
  split at h
  · simp at h
  · rename_i hc
    exact Nat.lt_trans (r.progress h) (length_of_scanColon hc)

/-- The next member of an object: its name and the record after it. A field may not be given
twice. -/
def readMember {ρ : Type} (shape : Shape ρ) (seen : List String) (record : ρ)
    (cs : List Char) : Except Failure ((String × ρ) × List Char) :=
  match readText [] cs with
  | .error f => .error f
  | .ok (name, rest) =>
    match shape.field? name with
    | none => mapValue (fun _ => (name, record)) (readMemberValue Reader.skip rest)
    | some field =>
      if seen.contains name then .error (.loose (.repeatedField name) rest)
      else mapValue (fun change => (name, change record)) (readMemberValue field.change rest)

theorem length_of_readMember {ρ : Type} {shape : Shape ρ} {seen : List String} {record : ρ}
    {cs rest : List Char} {m : String × ρ}
    (h : readMember shape seen record cs = .ok (m, rest)) : rest.length < cs.length := by
  unfold readMember at h
  split at h
  · simp at h
  · rename_i ht
    have := length_of_readText ht
    split at h
    · obtain ⟨_, hv, _⟩ := mapValue_eq_ok h
      have := length_of_readMemberValue hv
      omega
    · split at h
      · simp at h
      · obtain ⟨_, hv, _⟩ := mapValue_eq_ok h
        have := length_of_readMemberValue hv
        omega

/-- The members of an object, up to its end. `seen` are the names read so far. -/
def readMembers {ρ : Type} (shape : Shape ρ) (seen : List String) (record : ρ)
    (cs : List Char) : Except Failure (ρ × List Char) :=
  match _next : nextKey seen.isEmpty cs with
  | .error f => .error f
  | .ok none =>
    match shape.missing? seen with
    | some field => .error (.loose (.missingField field.name) cs)
    | none => .ok (record, cs)
  | .ok (some start) =>
    match _read : readMember shape seen record start with
    | .error f => .error f
    | .ok ((name, record'), rest) => readMembers shape (name :: seen) record' rest
termination_by cs.length
decreasing_by exact Nat.lt_trans (length_of_readMember _read) (length_of_nextKey _next)

theorem length_of_readMembers {ρ : Type} {shape : Shape ρ} {seen : List String} {record r : ρ}
    {cs rest : List Char} (h : readMembers shape seen record cs = .ok (r, rest)) :
    rest.length ≤ cs.length := by
  fun_induction readMembers shape seen record cs with
  | case1 => simp at h
  | case2 => simp at h
  | case3 =>
    simp only [Except.ok.injEq, Prod.mk.injEq] at h
    exact Nat.le_of_eq (congrArg List.length h.2.symm)
  | case4 => simp at h
  | case5 _ _ _ _ hn _ _ _ hr ih =>
    have := ih h
    have := length_of_readMember hr
    have := length_of_nextKey hn
    omega

/-- The fields of a record in their order, up to the end of the list. `count` is the number of
fields before these. -/
def readFields {ρ : Type} (title : String) (count : Nat) (record : ρ) (cs : List Char) :
    List (RecordField ρ) → Except Failure (ρ × List Char)
  | [] => .ok (record, cs)
  | field :: fields =>
    match nextElement (count = 0) cs with
    | .error f => .error f
    | .ok none =>
      if field.required then .error (.loose (.tooFewElements count title) cs)
      else readFields title (count + 1) record cs fields
    | .ok (some start) =>
      match field.change.run start with
      | .error f => .error f
      | .ok (change, rest) => readFields title (count + 1) (change record) rest fields

theorem length_of_readFields {ρ : Type} {title : String} {count : Nat} {record r : ρ}
    {cs rest : List Char} {fields : List (RecordField ρ)}
    (h : readFields title count record cs fields = .ok (r, rest)) : rest.length ≤ cs.length := by
  fun_induction readFields title count record cs fields with
  | case1 =>
    simp only [Except.ok.injEq, Prod.mk.injEq] at h
    exact Nat.le_of_eq (congrArg List.length h.2.symm)
  | case2 => simp at h
  | case3 => simp at h
  | case4 _ _ _ _ _ _ _ ih => exact ih h
  | case5 => simp at h
  | case6 _ _ _ field _ _ hn _ _ hr ih =>
    have := ih h
    have := field.change.progress hr
    have := length_of_nextElement hn
    omega

/-- A record, written as an object or as a list. -/
def Reader.record {ρ : Type} (shape : Shape ρ) : Reader ρ where
  run cs :=
    match skipSpace cs with
    | '\x7b' :: rest => leave .object (readMembers shape [] shape.blank rest)
    | '[' :: rest => leave .list (readFields shape.listTitle 0 shape.blank rest shape.fields)
    | other => .error (mismatch shape.title other)
  progress h := by
    split at h
    · rename_i hs
      obtain ⟨inner, hr, hle⟩ := leave_eq_ok h
      have := length_of_readMembers hr
      have := length_of_skipSpace hs
      omega
    · rename_i hs
      obtain ⟨inner, hr, hle⟩ := leave_eq_ok h
      have := length_of_readFields hr
      have := length_of_skipSpace hs
      omega
    · simp at h

end FrontendPolicy.Json

import QueryPlan.Text.Search

/-!
# References to the environment

A text may refer to environment variables as `${NAME}`, where the name is any run of characters up
to the closing brace. References are found once, in the text as it is given. Each that names a
variable replaces all of its occurrences in the text as it stands by then, one reference after the
other, so the value of one variable is searched for the references that come later.

An environment is a sequence of lines `NAME=value`, and a name is looked up by the line that it and
an equals sign start. A name without an equals sign is looked up as a whole
(`Environment.value?_eq_lookup`); one with an equals sign reaches into the value of the entry that
its first part names.
-/

namespace QueryPlan.Settings
set_option autoImplicit false

/-- Values of environment variables by name. -/
abbrev Environment := List (String × String)

/-- The line of a variable in an environment. -/
def Environment.line (entry : String × String) : List Char :=
  entry.1.toList ++ '=' :: entry.2.toList

/-- What a name stands for: the rest of the line that starts with it and an equals sign. -/
def Environment.value? (env : Environment) (name : List Char) : Option (List Char) :=
  env.findSome? fun entry => Text.afterStart? (name ++ ['=']) (line entry)

theorem Environment.afterStart?_line {name key value : List Char} (hn : '=' ∉ name)
    (hk : '=' ∉ key) :
    Text.afterStart? (name ++ ['=']) (key ++ '=' :: value) =
      if name = key then some value else none := by
  induction name generalizing key with
  | nil =>
    cases key with
    | nil => simp [Text.afterStart?]
    | cons d key => simp_all [Text.afterStart?]
  | cons c name ih =>
    simp only [List.mem_cons, not_or] at hn
    cases key with
    | nil => simp [Text.afterStart?, Ne.symm hn.1]
    | cons d key =>
      simp only [List.mem_cons, not_or] at hk
      by_cases h : c = d
      · simp [Text.afterStart?, h, ih hn.2 hk.2]
      · simp [Text.afterStart?, h]

/-- Where no name has an equals sign, a name stands for the value that is kept under it. -/
theorem Environment.value?_eq_lookup {env : Environment} {name : String} (hn : '=' ∉ name.toList)
    (he : ∀ entry ∈ env, '=' ∉ entry.1.toList) :
    env.value? name.toList = (env.lookup name).map String.toList := by
  induction env with
  | nil => rfl
  | cons entry env ih =>
    obtain ⟨key, value⟩ := entry
    have hk := he (key, value) (by simp)
    have rest := ih fun entry h => he entry (by simp [h])
    simp only [value?, line] at rest
    by_cases h : name = key
    · subst h
      simp [value?, line, afterStart?_line hn hk]
    · have hl : ¬ name.toList = key.toList := fun e => h (String.toList_inj.1 e)
      simp [value?, line, afterStart?_line hn hk, List.lookup_cons, beq_false_of_ne h, hl, rest]

/-- A reference to a name as it is written. -/
def reference (name : List Char) : List Char := '$' :: '\x7b' :: (name ++ ['\x7d'])

/-- The name of the reference that starts here, if one does. -/
def referenceAt? : List Char → Option (List Char)
  | '$' :: '\x7b' :: rest =>
    let name := rest.takeWhile (· != '\x7d')
    if name.isEmpty || name.length = rest.length then none else some name
  | _ => none

/-- The names referred to, from the left and without overlaps, after `skip` characters that belong
to a reference already found. -/
def namesFrom : Nat → List Char → List (List Char)
  | _, [] => []
  | skip + 1, _ :: s => namesFrom skip s
  | 0, c :: s =>
    match referenceAt? (c :: s) with
    | some name => name :: namesFrom ((reference name).length - 1) s
    | none => namesFrom 0 s

/-- A text with all occurrences of one reference replaced, if its variable is set. -/
def substitute (env : Environment) (s : List Char) (name : List Char) : List Char :=
  match env.value? name with
  | some value => Text.replaceAll (reference name) value s
  | none => s

/-- A text with the references found in it replaced one after the other. -/
def expandChars (env : Environment) (s : List Char) : List Char :=
  (namesFrom 0 s).foldl (substitute env) s

/-- A text with the references found in it replaced one after the other. -/
def expand (env : Environment) (s : String) : String := String.ofList (expandChars env s.toList)

end QueryPlan.Settings

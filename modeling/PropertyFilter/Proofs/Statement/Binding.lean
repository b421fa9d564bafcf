import PropertyFilter.Proofs.Condition.Size
import PropertyFilter.Proofs.Statement.Placement

/-!
  # Values of a statement

  A statement is made of converted filters. Each filter is a clause of its own: its
  expression with the placeholders of the dialect, in parentheses if there are several
  filters. Placeholders are numbered through the whole statement, and the values are
  those of the filters one after the other. The condition that always holds is one
  placeholder, bound to the truth value.

      filters                     clauses (numbered)     values
      name  ~'a*'                 (name like $1)         %a%
      size  in(1,2)               (size in($2,$3))       1, 2
      note  nothing               $4                     true

  Main statement: every statement of converted filters can be built, in every dialect,
  and this is its text and these are its values (`bound?_of_filters`).
-/

namespace PropertyFilter

open Conversion Statement

/-! ## Section 1: Clauses -/

/-- The values that a condition binds in a statement. -/
def Condition.bound (c : Condition) : List Bound :=
  if c.isEmpty then [.truth] else c.params.map .param

namespace Statement

/-- The text of a condition, the first value of which is number `n` of the statement. -/
def conditionText (d : Dialect) (n : Nat) (c : Condition) : List Char :=
  if c.isEmpty then d.placeholder n else withPlaceholders d n c.expression.toList

/-- A condition among others is in parentheses, unless it is empty. -/
def clause (d : Dialect) (several : Bool) (n : Nat) (c : Condition) : List Char :=
  if several && !c.isEmpty then '(' :: (conditionText d n c ++ [')']) else conditionText d n c

/-- The clauses of a statement, the first value of which is number `n`. -/
def clauses (d : Dialect) (several : Bool) (n : Nat) : List Condition → List (List Char)
  | [] => []
  | c :: rest => clause d several n c :: clauses d several (n + c.bound.length) rest

/-- The text of a statement with placeholders for its values. -/
def statementText (d : Dialect) (table : String) (conditions : List Condition) : String :=
  let head := "SELECT * FROM ".toList ++ d.quoteName table
  if conditions.isEmpty then String.ofList head
  else
    String.ofList (head ++ " WHERE ".toList ++
      " AND ".toList.intercalate (clauses d (1 < conditions.length) 1 conditions))

/-! ## Section 2: Parts of a statement -/

section parts
variable {d : Dialect}

/-- A plain condition with a placeholder for each value finds its place in a statement. -/
theorem ofCondition?_shows {c : Condition} (hplain : Plain c.expression.toList)
    (hcount : c.placeholderCount = c.params.length)
    (hfits : d.isNumbered = true → c.params.length < 2 ^ 64) :
    ∃ parts, ofCondition? d c = some parts ∧
      Shows d c.bound (fun n => conditionText d n c) parts := by
  by_cases hempty : c.isEmpty = true
  · -- what always holds is one placeholder for the truth value
    refine ⟨[.value .truth], ?_, ?_⟩
    · rw [ofCondition?, if_pos hempty]
    · rw [Condition.bound, if_pos hempty]
      apply (Shows.nil.value_cons .truth).congr
      intro n
      rw [conditionText, if_pos hempty, List.append_nil]
  · have hcount : 0 + c.expression.toList.count '?' = c.params.length := by
      rw [Nat.zero_add]
      exact hcount
    obtain ⟨parts, hparts, hshows⟩ := fill?_placed hfits hplain hcount fun _ => rfl
    refine ⟨parts, ?_, ?_⟩
    · rw [ofCondition?, if_neg hempty]
      exact hparts
    · rw [Condition.bound, if_neg hempty]
      apply hshows.congr
      intro n
      rw [conditionText, if_neg hempty]

/-- The parts of a clause: those of the condition, in parentheses where they are needed. -/
def clauseParts (several : Bool) (c : Condition) (inner : List Part) : List Part :=
  if several && !c.isEmpty then .text ['('] :: inner ++ [.text [')']] else inner

theorem conjunction?_cons {several : Bool} {c : Condition} {rest : List Condition}
    {inner more : List Part} (hinner : ofCondition? d c = some inner)
    (hmore : conjunction? d several rest = some more) :
    conjunction? d several (c :: rest) =
      some (if rest.isEmpty then clauseParts several c inner
        else clauseParts several c inner ++ .text " AND ".toList :: more) := by
  rw [conjunction?, hinner, hmore]
  rfl

theorem clauseParts_shows {c : Condition} {inner : List Part}
    (h : Shows d c.bound (fun n => conditionText d n c) inner) (several : Bool) :
    Shows d c.bound (fun n => clause d several n c) (clauseParts several c inner) := by
  unfold clause clauseParts
  by_cases hparens : (several && !c.isEmpty) = true
  · simp only [if_pos hparens]
    have hclosed := h.append (Shows.nil.text_cons [')'])
    rw [List.append_nil] at hclosed
    apply (hclosed.text_cons ['(']).congr
    intro n
    simp
  · simp only [if_neg hparens]
    exact h

/-- **Clauses**: if every condition finds its place, so does the conjunction of them, the
numbers running on from one to the next. -/
theorem conjunction?_shows (several : Bool) {conditions : List Condition}
    (h : ∀ c ∈ conditions, ∃ parts, ofCondition? d c = some parts ∧
      Shows d c.bound (fun n => conditionText d n c) parts) :
    ∃ parts, conjunction? d several conditions = some parts ∧
      Shows d (conditions.flatMap Condition.bound)
        (fun n => " AND ".toList.intercalate (clauses d several n conditions)) parts := by
  induction conditions with
  | nil => exact ⟨[], rfl, .nil⟩
  | cons c rest ih =>
    obtain ⟨inner, hinner, hshows⟩ := h c (List.mem_cons_self ..)
    obtain ⟨more, hmore, hrest⟩ := ih fun c' hc' => h c' (List.mem_cons_of_mem _ hc')
    have hclause := clauseParts_shows hshows several
    refine ⟨_, conjunction?_cons hinner hmore, ?_⟩
    cases rest with
    | nil =>
      rw [List.flatMap_singleton]
      apply hclause.congr
      intro n
      simp [clauses]
    | cons c' rest =>
      -- the clauses behind go on with the numbers where this one ends
      rw [List.flatMap_cons]
      apply (hclause.append (hrest.text_cons " AND ".toList)).congr
      intro n
      rw [clauses, clauses, List.intercalate_cons_cons, ← clauses, List.append_assoc]

theorem bound?_shows {table : String} {conditions : List Condition}
    (h : ∀ c ∈ conditions, ∃ parts, ofCondition? d c = some parts ∧
      Shows d c.bound (fun n => conditionText d n c) parts) :
    (Select.mk table conditions).bound? d =
      some (statementText d table conditions, conditions.flatMap Condition.bound) := by
  unfold Select.bound? Select.parts? statementText
  by_cases hnone : conditions.isEmpty = true
  · obtain rfl : conditions = [] := List.isEmpty_iff.mp hnone
    simp [boundText, values]
  · obtain ⟨parts, hparts, hshows⟩ :=
      conjunction?_shows (d := d) (1 < conditions.length) h
    have hvalues : values parts = conditions.flatMap Condition.bound := hshows.holds
    simp only [if_neg hnone, hparts, Option.bind_eq_bind, Option.bind_some, Option.map_some,
      Option.pure_def, boundText, hshows.reads 1, List.append_assoc]
    rw [← hvalues]
    rfl

end parts

end Statement

/-! ## Section 3: Statements of filters -/

/-- The expression of a filter is plain if its key has no character with a meaning. -/
theorem Conversion.Converts.plain {key value : String} {c : Condition}
    (h : Converts key value c) (hkey : ∀ x ∈ key.toList, x ∉ '?' :: reserved) :
    Plain c.expression.toList := by
  have hmark : '?' ∉ key.toList := by
    intro hmem
    exact hkey '?' hmem (List.mem_cons_self ..)
  refine ⟨?_, (h.placed hmark).apart⟩
  intro x hx
  rcases h.madeOf x hx with hx | hx
  · intro hreserved
    exact hkey x hx (List.mem_cons_of_mem _ hreserved)
  · -- no character of the alphabet has a meaning in a statement
    have hfree : Predicate.alphabet.all (!reserved.contains ·) = true := by decide
    have hx := List.all_eq_true.mp hfree x hx
    simpa using hx

/-- **Every value is bound, in order.** Let the keys of some filters have no `?` and no
reserved character, and let 64 bits hold the sizes of the filters. If all filters can be
converted, the statement of them can be built in every dialect, and it consists of their
clauses with placeholders numbered through; its values are those of the filters in order,
and the truth value for one that always holds. -/
theorem bound?_of_filters (d : Dialect) (table : String) (filters : List (String × String))
    (conditions : List Condition)
    (hkeys : ∀ f ∈ filters, ∀ x ∈ f.1.toList, x ∉ ['?', '$', '\'', '"', '`', '['])
    (hsizes : ∀ f ∈ filters, f.2.utf8ByteSize < 2 ^ 64)
    (hconvert : filters.map (fun f => convert (.name f.1) f.2) = conditions.map .ok) :
    (Select.mk table conditions).bound? d =
      some (statementText d table conditions, conditions.flatMap Condition.bound) := by
  apply bound?_shows
  intro c hc
  have hresult : .ok c ∈ filters.map fun f => convert (.name f.1) f.2 := by
    rw [hconvert]
    exact List.mem_map_of_mem hc
  obtain ⟨f, hf, hfc⟩ := List.mem_map.mp hresult
  have hrun := convert_ok_iff.mp hfc
  have hplain := hrun.plain (hkeys f hf)
  have hmark : '?' ∉ f.1.toList := by
    intro hmem
    exact hkeys f hf '?' hmem (List.mem_cons_self ..)
  apply ofCondition?_shows hplain (hrun.placed hmark).count
  intro _
  -- no more values than characters, and no more characters than bytes
  have hparams := hrun.length_params_le
  have hbytes := Text.length_le_byteLength f.2.toList
  have hsize := hsizes f hf
  rw [Text.byteLength_toList] at hbytes
  omega

/-- A search, a list and a filter that says nothing, where placeholders are numbered. -/
theorem bound?_of_filters_numbered :
    let filters := [("name", "~'a?'"), ("size", "in(1,2)"), ("note", "")]
    let conditions : List Condition :=
      [⟨"name like ?", [.text "%a?%"]⟩, ⟨"size in(?,?)", [.int 1, .int 2]⟩, .always]
    (∀ f ∈ filters, ∀ x ∈ f.1.toList, x ∉ ['?', '$', '\'', '"', '`', '[']) ∧
      (∀ f ∈ filters, f.2.utf8ByteSize < 2 ^ 64) ∧
      filters.map (fun f => convert (.name f.1) f.2) = conditions.map .ok ∧
      (Select.mk "file" conditions).bound? .postgres =
        some ("SELECT * FROM \"file\" WHERE (name like $1) AND (size in($2,$3)) AND $4",
          [.param (.text "%a?%"), .param (.int 1), .param (.int 2), .truth]) := by
  intro filters conditions
  have hkeys : ∀ f ∈ filters, ∀ x ∈ f.1.toList, x ∉ ['?', '$', '\'', '"', '`', '['] := by
    simp [filters]
  have hsizes : ∀ f ∈ filters, f.2.utf8ByteSize < 2 ^ 64 := by decide
  have hconvert : filters.map (fun f => convert (.name f.1) f.2) = conditions.map .ok := by
    decide +kernel
  refine ⟨hkeys, hsizes, hconvert, ?_⟩
  exact bound?_of_filters .postgres "file" filters conditions hkeys hsizes hconvert

end PropertyFilter

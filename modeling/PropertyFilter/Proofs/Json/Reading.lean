import PropertyFilter.Json.Record
import PropertyFilter.Proofs.Json.Scalar

/-!
  # Reading what is written: arrays and records

  Items stand behind each other with commas between them, fields too, each behind its name:

      array     [a,b,c]
      record    {"name":a,"other":b}

  What a reader makes of an array is decided item by item: the array is read if every item is,
  and refused if one of them is. The fields of a record are read one after the other, each from
  the state that the one before it has left.

  Main statements: `readItems_reads` and `readFieldsFrom_field`.
-/

namespace PropertyFilter.Json

open Digits

/-! ## Section 1: Outcomes -/

/-- Reading here gives the value, if there is one, and is refused otherwise. -/
def Reads {α : Type} (read : Reader α) (cur : Cursor) (value? : Option α) (rest : List Char) :
    Prop :=
  match value? with
  | some x => Gives read cur x rest
  | none => Refuses read cur

/-- A text that begins with what a value can begin with. -/
def Begins (text : List Char) : Prop :=
  ∃ c cs, text = c :: cs ∧ Cursor.isSpace c = false ∧ c ≠ ']'

/-- What is read from a text, whatever closes it. -/
def ReadsText {α : Type} (read : Reader α) (text : List Char) (value? : Option α) : Prop :=
  ∀ cur rest, cur.rest = text ++ rest → Closed rest → Reads read cur value? rest

section outcomes
variable {α β : Type} {read : Reader α} {cur : Cursor} {rest : List Char}

/-- Reading here is what another reader does further on. -/
theorem Reads.of_eq {read' : Reader α} {start : Cursor} {value? : Option α}
    (h : Reads read' start value? rest) (hread : read cur = read' start)
    (hbound : start.bound = cur.bound) : Reads read cur value? rest := by
  cases value? with
  | none =>
    obtain ⟨e, he⟩ := h
    exact ⟨e, hread.trans he⟩
  | some x =>
    obtain ⟨after, hafter, hrest, hkeep⟩ := h
    exact ⟨after, hread.trans hafter, hrest, hkeep.trans hbound⟩

/-- Two readers behind each other: the second one starts where the first one has ended. -/
theorem Reads.bind (next : α → Reader β) {x? : Option α} {f : α → Option β} {behind : List Char}
    (h : Reads read cur x? rest)
    (hnext : ∀ x ∈ x?, ∀ after, after.rest = rest → after.bound = cur.bound →
      Reads (next x) after (f x) behind) :
    Reads (fun cur => read cur >>= fun found => next found.1 found.2) cur (x?.bind f) behind := by
  cases x? with
  | none =>
    obtain ⟨e, he⟩ := h
    refine ⟨e, ?_⟩
    dsimp only
    rw [he]
    rfl
  | some x =>
    obtain ⟨after, hread, hafter, hbound⟩ := h
    refine (hnext x rfl after hafter hbound).of_eq ?_ hbound
    rw [hread]
    rfl

/-- What is read is put into another value. -/
theorem Reads.map {value? : Option α} (f : α → β) (h : Reads read cur value? rest) :
    Reads (fun cur => (read cur).map fun found => (f found.1, found.2)) cur (value?.map f) rest := by
  cases value? with
  | none =>
    obtain ⟨e, he⟩ := h
    refine ⟨e, ?_⟩
    dsimp only
    rw [he]
    rfl
  | some x =>
    obtain ⟨after, hread, hafter⟩ := h
    refine ⟨after, ?_, hafter⟩
    dsimp only
    rw [hread]
    rfl

/-- A whole text is read to the value of its reader. -/
theorem readAll_toOption {value? : Option α} {text : String}
    (h : Reads read (Cursor.ofText text) value? []) : (readAll read text).toOption = value? := by
  unfold readAll
  cases value? with
  | none =>
    obtain ⟨e, he⟩ := h
    rw [he]
    rfl
  | some x =>
    obtain ⟨after, hread, hafter, -⟩ := h
    have hspace : after.skipSpace = after := skipSpace_eq (by simp [hafter])
    rw [hread]
    dsimp only [bind, Except.bind]
    rw [hspace, hafter]
    rfl

end outcomes

/-! ## Section 2: Items -/

/-- The texts of items with commas between them; the first one has none in front. -/
def separated (first : Bool) : List (List Char) → List Char
  | [] => []
  | item :: items => (if first then item else ',' :: item) ++ separated false items

theorem length_le_separated {items : List (List Char)} (h : ∀ item ∈ items, Begins item)
    (first : Bool) : items.length ≤ (separated first items).length := by
  induction items generalizing first with
  | nil => exact Nat.zero_le _
  | cons item items ih =>
    obtain ⟨c, cs, rfl, -, -⟩ := h item List.mem_cons_self
    have hrest := ih (fun item hitem => h item (List.mem_cons_of_mem _ hitem)) false
    rw [separated, List.length_append, List.length_cons]
    split <;> simp only [List.length_cons] <;> omega

theorem compactItems_eq (items : List Json) :
    (compactItems items).toList = separated true (items.map fun v => (compact v).toList) := by
  induction items with
  | nil =>
    rw [compactItems]
    rfl
  | cons v items ih =>
    cases items with
    | nil =>
      rw [compactItems]
      simp [separated]
    | cons w items =>
      rw [compactItems, String.toList_append, String.toList_append, ih]
      · exact List.append_assoc ..
      · exact List.cons_ne_nil w items

section items
variable {α β : Type} {read : Reader α} {cur : Cursor} {c : Char} {item rest : List Char}
variable {m : Manner} {first : Bool}

theorem skipSpace_cons (hcur : cur.rest = c :: rest) (hc : Cursor.isSpace c = false) :
    cur.skipSpace = cur := by
  refine skipSpace_eq fun d hd => ?_
  rw [hcur] at hd
  rwa [← Option.some.inj hd]

theorem closed_separated (items : List (List Char)) :
    Closed (separated false items ++ ']' :: rest) := by
  cases items with
  | nil => exact fun c hc => Or.inr (Or.inl (Option.some.inj hc).symm)
  | cons item items => exact fun c hc => Or.inl (Option.some.inj hc).symm

theorem nextItem_text (hitem : Begins item)
    (hcur : cur.rest = (if first then item else ',' :: item) ++ rest) :
    ∃ next, nextItem m first cur = .ok (some next) ∧ next.rest = item ++ rest ∧
      next.bound = cur.bound := by
  obtain ⟨c, cs, rfl, hspace, hbracket⟩ := hitem
  cases first with
  | true =>
    have hhead : cur.rest = c :: (cs ++ rest) := hcur
    refine ⟨cur, ?_, hhead, rfl⟩
    unfold nextItem
    dsimp only
    rw [skipSpace_cons hhead hspace, hhead]
    dsimp only
    rw [if_neg hbracket, if_pos rfl]
  | false =>
    have hcomma : cur.rest = ',' :: (c :: (cs ++ rest)) := hcur
    have hhead : cur.advance.rest = c :: (cs ++ rest) := advance_rest hcomma
    refine ⟨cur.advance, ?_, hhead, advance_bound cur⟩
    unfold nextItem
    dsimp only
    rw [skipSpace_cons hcomma rfl, hcomma]
    dsimp only
    rw [skipSpace_cons hhead hspace, hhead]
    dsimp only
    rw [if_neg (by decide), if_neg (by decide), if_pos rfl, if_neg hbracket]

theorem nextItem_end (hcur : cur.rest = ']' :: rest) : nextItem m first cur = .ok none := by
  unfold nextItem
  dsimp only
  rw [skipSpace_cons hcur rfl, hcur]
  dsimp only
  rw [if_pos rfl]

/-- The items of an array are read one by one, up to the first one that is refused. -/
theorem readItemsFrom_reads {items : List β} {textOf : β → List Char} {value? : β → Option α}
    (hbegins : ∀ b ∈ items, Begins (textOf b))
    (hitems : ∀ b ∈ items, ReadsText read (textOf b) (value? b)) {fuel : Nat}
    (hfuel : items.length < fuel)
    (hcur : cur.rest = separated first (items.map textOf) ++ ']' :: rest) :
    Reads (readItemsFrom m read fuel first) cur (items.mapM value?) (']' :: rest) := by
  obtain ⟨fuel, rfl⟩ := Nat.exists_eq_add_of_le' (Nat.zero_lt_of_lt hfuel)
  -- every item uses up one unit of fuel, and the closing bracket another one
  induction items generalizing fuel first cur with
  | nil =>
    have hclosing : cur.rest = ']' :: rest := hcur
    refine ⟨cur, ?_, hclosing, rfl⟩
    rw [readItemsFrom, nextItem_end hclosing]
    dsimp only [bind, Except.bind]
    rw [skipSpace_cons hclosing rfl]
    rfl
  | cons b items ih =>
    rw [List.length_cons, Nat.add_lt_add_iff_right] at hfuel
    rw [List.map_cons, separated, List.append_assoc] at hcur
    obtain ⟨fuel, rfl⟩ := Nat.exists_eq_add_of_le' (Nat.zero_lt_of_lt hfuel)
    obtain ⟨next, hnext, hhead, hbound⟩ :=
      nextItem_text (m := m) (hbegins b List.mem_cons_self) hcur
    have hitem := hitems b List.mem_cons_self next _ hhead (closed_separated _)
    have hstep : readItemsFrom m read (fuel + 1 + 1) first cur =
        (read next >>= fun found => (readItemsFrom m read (fuel + 1) false found.2).map
          fun more => (found.1 :: more.1, more.2)) := by
      rw [readItemsFrom, hnext]
      dsimp only [bind, Except.bind]
      cases read next with
      | error e => rfl
      | ok p =>
        dsimp only
        cases readItemsFrom m read (fuel + 1) false p.2 <;> rfl
    have hcons : (b :: items).mapM value? =
        (value? b).bind fun x => (items.mapM value?).map (x :: ·) := by
      rw [List.mapM_cons]
      cases value? b with
      | none => rfl
      | some x => cases items.mapM value? <;> rfl
    rw [hcons]
    refine (hitem.bind (fun x cur => (readItemsFrom m read (fuel + 1) false cur).map
      fun more => (x :: more.1, more.2)) fun x _ after hafter _ => ?_).of_eq hstep hbound
    exact (ih (fun b hb => hbegins b (List.mem_cons_of_mem _ hb))
      (fun b hb => hitems b (List.mem_cons_of_mem _ hb)) hafter fuel hfuel).map (x :: ·)

/-- **An array is read item by item.** -/
theorem readItems_reads {items : List β} {textOf : β → List Char} {value? : β → Option α}
    (hbegins : ∀ b ∈ items, Begins (textOf b))
    (hitems : ∀ b ∈ items, ReadsText read (textOf b) (value? b))
    (hbound : cur.rest.length ≤ cur.bound)
    (hcur : cur.rest = separated true (items.map textOf) ++ ']' :: rest) :
    Reads (readItems m read) cur (items.mapM value?) rest := by
  have hfuel : items.length < cur.bound + 1 := by
    have hmap : ∀ item ∈ items.map textOf, Begins item := by simpa using hbegins
    have hlength := length_le_separated hmap true
    rw [List.length_map] at hlength
    rw [hcur, List.length_append] at hbound
    omega
  have hreads := readItemsFrom_reads (m := m) hbegins hitems hfuel hcur
  have hend (xs : List α) (after : Cursor) (hafter : after.rest = ']' :: rest) :
      Reads (fun cur => .ok (xs, cur.advance)) after (some xs) rest :=
    ⟨after.advance, rfl, advance_rest hafter, advance_bound after⟩
  have hboth := hreads.bind _ fun xs _ after hafter _ => hend xs after hafter
  rwa [Option.bind_fun_some] at hboth

end items

/-! ## Section 3: Fields -/

section fields
variable {σ : Type} {onField : σ → String → Reader σ} {state : σ} {cur : Cursor} {fuel : Nat}
variable {first : Bool} {name : String} {rest behind : List Char}

/-- The name of a field as it is written, with a comma in front unless it is the first one. -/
def fieldName (first : Bool) (name : String) : List Char :=
  (if first then ['"'] else [',', '"']) ++ (name.toList.flatMap escapeChar ++ ['"'])

theorem nextField_name (hcur : cur.rest = fieldName first name ++ rest) :
    ∃ next, nextField .wanted first cur = .ok (some (name, next)) ∧ next.rest = rest ∧
      next.bound = cur.bound := by
  have hname (quote : Cursor)
      (h : quote.rest = '"' :: (name.toList.flatMap escapeChar ++ '"' :: rest)) :
      Gives (readText .wanted) quote.advance name rest := readText_gives name (advance_rest h)
  unfold fieldName at hcur
  cases first with
  | true =>
    have hquote : cur.rest = '"' :: (name.toList.flatMap escapeChar ++ '"' :: rest) := by
      rw [hcur]
      simp
    obtain ⟨next, hread, hnext, hbound⟩ := hname cur hquote
    refine ⟨next, ?_, hnext, hbound.trans (advance_bound cur)⟩
    unfold nextField
    dsimp only
    rw [skipSpace_cons hquote rfl, hquote]
    dsimp only
    rw [if_neg (by decide), if_pos rfl, if_pos rfl, hread]
    rfl
  | false =>
    have hcomma : cur.rest =
        ',' :: '"' :: (name.toList.flatMap escapeChar ++ '"' :: rest) := by
      rw [hcur]
      simp
    have hquote := advance_rest hcomma
    obtain ⟨next, hread, hnext, hbound⟩ := hname cur.advance hquote
    refine ⟨next, ?_, hnext, ?_⟩
    · unfold nextField
      dsimp only
      rw [skipSpace_cons hcomma rfl, hcomma]
      dsimp only
      rw [skipSpace_cons hquote rfl, hquote]
      dsimp only
      rw [if_neg (by decide), if_neg (by decide), if_pos rfl, if_neg (by decide), if_pos rfl,
        hread]
      rfl
    · rw [hbound, advance_bound, advance_bound]

/-- **The next field of an object** is read from the state so far, the others from the state
that it leaves. -/
theorem readFieldsFrom_field {state? : Option σ} {f : σ → Option σ} {middle : List Char}
    (hfield : ∀ next, next.rest = rest → next.bound = cur.bound →
      Reads (onField state name) next state? middle)
    (hmore : ∀ s ∈ state?, ∀ after, after.rest = middle → after.bound = cur.bound →
      Reads (readFieldsFrom .wanted onField fuel false s) after (f s) behind)
    (hcur : cur.rest = fieldName first name ++ rest) :
    Reads (readFieldsFrom .wanted onField (fuel + 1) first state) cur (state?.bind f) behind := by
  obtain ⟨next, hnext, hrest, hbound⟩ := nextField_name hcur
  refine ((hfield next hrest hbound).bind (readFieldsFrom .wanted onField fuel false)
    fun s hs after hafter hkeep => hmore s hs after hafter (hkeep.trans hbound)).of_eq ?_ hbound
  rw [readFieldsFrom, hnext]
  rfl

/-- At the closing brace all fields have been read. -/
theorem readFieldsFrom_end (hcur : cur.rest = '}' :: rest) :
    Gives (readFieldsFrom .wanted onField (fuel + 1) first state) cur state ('}' :: rest) := by
  have hend : nextField .wanted first cur = .ok none := by
    unfold nextField
    dsimp only
    rw [skipSpace_cons hcur rfl, hcur]
    dsimp only
    rw [if_pos rfl]
  refine ⟨cur, ?_, hcur, rfl⟩
  rw [readFieldsFrom, hend]
  dsimp only [bind, Except.bind]
  rw [skipSpace_cons hcur rfl]
  rfl

/-- A known field that was not there before is read behind its colon, and its name is noted. -/
theorem readNamedField_reads {known : List (RecordField σ)} {field : RecordField σ}
    {seen : List String} {value? : Option σ} (hfind : known.find? (·.name = name) = some field)
    (hseen : name ∉ seen)
    (hfield : ∀ next, next.rest = rest → next.bound = cur.bound →
      Reads (field.read state) next value? behind)
    (hcur : cur.rest = ':' :: rest) :
    Reads (readNamedField known (state, seen) name) cur (value?.map (·, name :: seen)) behind := by
  have hcolon : colon cur = .ok cur.advance := by
    unfold colon
    dsimp only
    rw [skipSpace_cons hcur rfl, hcur]
    dsimp only
    rw [if_pos rfl]
  have hreads := (hfield cur.advance (advance_rest hcur) (advance_bound cur)).map
    (·, name :: seen)
  refine hreads.of_eq ?_ (advance_bound cur)
  unfold readNamedField
  dsimp only
  rw [hfind]
  dsimp only
  rw [if_neg hseen, hcolon]
  dsimp only [bind, Except.bind]
  cases field.read state cur.advance <;> rfl

/-- The fields of an object are read behind its opening brace. -/
theorem readFields_reads {value? : Option σ}
    (hfields : Reads (readFieldsFrom .wanted onField (cur.bound + 1) true state) cur value?
      ('}' :: rest)) : Reads (readFields .wanted onField state) cur value? rest := by
  have hend (s : σ) (after : Cursor) (hafter : after.rest = '}' :: rest) :
      Reads (fun cur => .ok (s, cur.advance)) after (some s) rest :=
    ⟨after.advance, rfl, advance_rest hafter, advance_bound after⟩
  have hboth := hfields.bind _ fun s _ after hafter _ => hend s after hafter
  rwa [Option.bind_fun_some] at hboth

/-- **A record is read from an object** that has all of its fields. -/
theorem readRecord_reads {wanted : String} {known : Nat → List (RecordField σ)} {depth : Nat}
    {value? : Option (σ × List String)}
    (hfields : Reads (readRecordFields (known depth) state) cur.advance value? rest)
    (hcomplete : ∀ found ∈ value?, (known 0).find? (·.name ∉ found.2) = none)
    (hcur : cur.rest = '{' :: behind) :
    Reads (readRecord wanted (depth + 1) known true state) cur (value?.map Prod.fst) rest := by
  unfold readRecord
  cases value? with
  | none =>
    obtain ⟨e, he⟩ := hfields
    refine ⟨e, ?_⟩
    simp only [skipSpace_cons hcur rfl, hcur, he, bind, Except.bind]
  | some found =>
    obtain ⟨after, hread, hafter, hbound⟩ := hfields
    refine ⟨after, ?_, hafter, hbound.trans (advance_bound cur)⟩
    simp only [skipSpace_cons hcur rfl, hcur, hread, hcomplete found rfl, bind, Except.bind]
    rfl

end fields

/-! ## Section 4: Values -/

section values
variable {cur : Cursor} {c : Char} {rest : List Char} {depth : Nat}

/-- What begins neither an array nor an object is a word, a number or a text. -/
theorem readValue_scalar (hcur : cur.rest = c :: rest) (hspace : Cursor.isSpace c = false)
    (hbracket : c ≠ '[') (hbrace : c ≠ '{') : readValue depth cur = readScalar cur := by
  rw [readValue.eq_def]
  dsimp only
  rw [skipSpace_cons hcur hspace, hcur]
  split
  · next heq => exact absurd (List.cons.inj heq).1 hbracket
  · next heq => exact absurd (List.cons.inj heq).1 hbrace
  · next heq => exact absurd (List.cons.inj heq).1 hbracket
  · next heq => exact absurd (List.cons.inj heq).1 hbrace
  · rfl

/-- No other value begins with the sign or the digit of a number. -/
theorem ne_of_numberStart (hc : c = '-' ∨ isDigit c = true) {d : Char}
    (hd : d ≠ '-' ∧ isDigit d = false) : c ≠ d := by
  rintro rfl
  rcases hc with rfl | hc
  · exact hd.1 rfl
  · rw [hd.2] at hc
    cases hc

theorem isSpace_numberStart (hc : c = '-' ∨ isDigit c = true) : Cursor.isSpace c = false := by
  unfold Cursor.isSpace
  simp [ne_of_numberStart hc (d := ' ') (by decide), ne_of_numberStart hc (d := '\n') (by decide),
    ne_of_numberStart hc (d := '\t') (by decide), ne_of_numberStart hc (d := '\r') (by decide)]

theorem NumberText.Proper.begins {t : NumberText} (ht : t.Proper) : Begins t.chars := by
  obtain ⟨c, cs, hchars, hc⟩ := ht.chars_cons
  exact ⟨c, cs, hchars, isSpace_numberStart hc, ne_of_numberStart hc (by decide)⟩

theorem readValue_number (depth : Nat) {t : NumberText} {v : Json} (ht : t.Proper)
    (hcur : cur.rest = t.chars ++ rest) (h : Gives readNumber cur v rest) :
    Gives (readValue depth) cur v rest := by
  obtain ⟨c, cs, hchars, hc⟩ := ht.chars_cons
  have hne {d : Char} (hd : d ≠ '-' ∧ isDigit d = false) : c ≠ d := ne_of_numberStart hc hd
  have hstart : cur.rest = c :: (cs ++ rest) := by rw [hcur, hchars, List.cons_append]
  have hscalar : readScalar cur = readNumber cur := by
    unfold readScalar
    rw [hstart]
    split
    · next heq => cases heq
    · next heq => exact absurd (List.cons.inj heq).1 (hne (by decide))
    · next heq => exact absurd (List.cons.inj heq).1 (hne (by decide))
    · next heq => exact absurd (List.cons.inj heq).1 (hne (by decide))
    · next heq => exact absurd (List.cons.inj heq).1 (hne (by decide))
    · next heq => rw [if_pos (by rw [← (List.cons.inj heq).1]; simpa using hc)]
  unfold Gives
  rwa [readValue_scalar hstart (isSpace_numberStart hc) (hne (by decide)) (hne (by decide)),
    hscalar]

theorem readValue_text (s : String) (hcur : cur.rest = (quote s).toList ++ rest) :
    Gives (readValue depth) cur (.text s) rest := by
  have hquote : cur.rest = '"' :: (s.toList.flatMap escapeChar ++ '"' :: rest) := by
    rw [hcur, quote]
    simp
  obtain ⟨after, hread, hafter, hbound⟩ := readText_gives s (advance_rest hquote)
  refine ⟨after, ?_, hafter, hbound.trans (advance_bound cur)⟩
  rw [readValue_scalar hquote rfl (by decide) (by decide), readScalar, hquote]
  dsimp only
  rw [hread]
  rfl

theorem readWantedText_gives (s : String) (hcur : cur.rest = (quote s).toList ++ rest) :
    Gives readWantedText cur s rest := by
  have hquote : cur.rest = '"' :: (s.toList.flatMap escapeChar ++ '"' :: rest) := by
    rw [hcur, quote]
    simp
  obtain ⟨after, hread, hafter, hbound⟩ := readText_gives s (advance_rest hquote)
  refine ⟨after, ?_, hafter, hbound.trans (advance_bound cur)⟩
  unfold readWantedText
  dsimp only
  rw [skipSpace_cons hquote rfl, hquote]
  exact hread

theorem readValue_null (hcur : cur.rest = ['n', 'u', 'l', 'l'] ++ rest) :
    Gives (readValue depth) cur .null rest := by
  have hn : cur.rest = 'n' :: 'u' :: 'l' :: 'l' :: rest := hcur
  have hu := advance_rest hn
  have hl := advance_rest hu
  have hlast := advance_rest hl
  refine ⟨cur.advance.advance.advance.advance, ?_, advance_rest hlast, ?_⟩
  · rw [readValue_scalar hn rfl (by decide) (by decide), readScalar, hn]
    have hword : readWord "ull".toList cur.advance =
        .ok cur.advance.advance.advance.advance := by
      show readWord ['u', 'l', 'l'] _ = _
      simp [readWord, hu, hl, hlast]
    dsimp only
    rw [hword]
    rfl
  · simp only [advance_bound]

end values

end PropertyFilter.Json

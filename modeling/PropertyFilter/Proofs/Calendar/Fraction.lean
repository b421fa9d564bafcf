import PropertyFilter.Calendar.DateReader

/-!
  # An optional fraction

  The two formats of the default reader differ in one item: the second one has a fraction of a
  second in front of the offset.

      default       day T hour : minute : second          offset
      fractional    day T hour : minute : second fraction offset

  A fraction is optional, and it begins with a point. An offset begins with white space or a
  sign, never with a point; so where an offset is read there is no fraction, and the item in
  front of it takes nothing. This holds of every format, with any items in front and behind
  (`Fills.fraction`).

  Main statement: what the default format reads the fractional one reads as the same moment, so
  that the default reader reads exactly the fractional format (`defaultFormat_conservative`).
-/

namespace PropertyFilter.Calendar

/-! ## Section 1: Items one after the other -/

/-- `Fills items f cs g rest`: the items, read one after the other from the front of `cs`, fill
the fields `f` up to `g` and leave `rest`. -/
inductive Fills : List Item → Fields → List Char → Fields → List Char → Prop
  | nil {f : Fields} {cs : List Char} : Fills [] f cs f cs
  | cons {item : Item} {items : List Item} {f g h : Fields} {cs mid rest : List Char} :
      item.read f cs = some (g, mid) → Fills items g mid h rest → Fills (item :: items) f cs h rest

section fills
variable {items more front back : List Item} {f g : Fields} {cs rest : List Char}

/-- A text is read by items that leave nothing of it. -/
theorem readItems_eq_some_iff : readItems items f cs = some g ↔ Fills items f cs g [] := by
  constructor
  · intro h
    induction items generalizing f cs with
    | nil =>
      cases cs with
      | nil =>
        cases h
        exact .nil
      | cons c cs => cases h
    | cons item items ih =>
      rw [readItems, Option.bind_eq_bind, Option.bind_eq_some_iff] at h
      obtain ⟨⟨f', mid⟩, hread, h⟩ := h
      exact .cons hread (ih h)
  · intro h
    generalize hrest : ([] : List Char) = rest at h
    induction h with
    | nil =>
      subst hrest
      rfl
    | cons hread _ ih =>
      rw [readItems, hread]
      exact ih hrest

theorem fills_append_iff :
    Fills (items ++ more) f cs g rest ↔
      ∃ f' mid, Fills items f cs f' mid ∧ Fills more f' mid g rest := by
  constructor
  · intro h
    induction items generalizing f cs with
    | nil => exact ⟨f, cs, .nil, h⟩
    | cons item items ih =>
      cases h with
      | cons hread h =>
        obtain ⟨f', mid, hitems, hmore⟩ := ih h
        exact ⟨f', mid, .cons hread hitems, hmore⟩
  · rintro ⟨f', mid, hitems, hmore⟩
    induction hitems with
    | nil => exact hmore
    | cons hread _ ih => exact .cons hread (ih hmore)

/-! ## Section 2: A fraction in front of an offset -/

/-- No offset begins with a point. -/
theorem takeOffset?_point (cs : List Char) : takeOffset? (Text.trimStart ('.' :: cs)) = none := by
  have htrim : Text.trimStart ('.' :: cs) = '.' :: cs :=
    List.dropWhile_cons_of_neg (by decide)
  rw [htrim]
  rfl

/-- A fraction that does not begin with its point is not there. -/
theorem fraction_read_of_no_point (h : ∀ c ∈ cs.head?, c ≠ '.') :
    Item.read f cs .fraction = some (f, cs) := by
  simp only [Item.read]
  split
  · exact absurd rfl (h '.' rfl)
  · rfl

/-- Where an offset is read there is no fraction to be taken. -/
theorem fraction_read_of_offset (h : Item.read f cs .offset = some (g, rest)) :
    Item.read f cs .fraction = some (f, cs) := by
  apply fraction_read_of_no_point
  rintro c hc rfl
  obtain ⟨behind, rfl⟩ := List.head?_eq_some_iff.mp hc
  simp only [Item.read, takeOffset?_point] at h
  cases h

/-- **An optional fraction in front of an offset changes no reading**, whatever the items
around them are. -/
theorem Fills.fraction (h : Fills (front ++ .offset :: back) f cs g rest) :
    Fills (front ++ .fraction :: .offset :: back) f cs g rest := by
  obtain ⟨f', mid, hfront, hbehind⟩ := fills_append_iff.mp h
  cases hbehind with
  | cons hoffset hback =>
    exact fills_append_iff.mpr
      ⟨f', mid, hfront, .cons (fraction_read_of_offset hoffset) (.cons hoffset hback)⟩

end fills

/-! ## Section 3: The formats of the default reader -/

/-- What both formats begin with. -/
def dateAndTime : List Item :=
  [.year, .literal '-', .month, .literal '-', .day, .literal 'T'] ++ Item.timeOfDay

theorem readFormat_default :
    readFormat defaultFormat.toList = some (dateAndTime ++ [.offset]) := by decide +kernel

theorem readFormat_fractional :
    readFormat fractionalFormat.toList = some (dateAndTime ++ [.fraction, .offset]) := by
  decide +kernel

/-- A moment is read if the items fill fields that give it. -/
theorem momentOf?_eq_some_iff {format text : String} {items : List Item} {m : Moment}
    (hformat : readFormat format.toList = some items) :
    momentOf? format text = some m ↔
      ∃ f, Fills items {} text.toList f [] ∧ f.resolve? = some m := by
  simp only [momentOf?, hformat, Option.bind_eq_bind, Option.bind_some, Option.bind_eq_some_iff,
    readItems_eq_some_iff]

/-- What the default format reads the fractional one reads as the same moment. -/
theorem momentOf?_fractional {text : String} {m : Moment}
    (h : momentOf? defaultFormat text = some m) : momentOf? fractionalFormat text = some m := by
  obtain ⟨f, hfills, hresolve⟩ := (momentOf?_eq_some_iff readFormat_default).mp h
  exact (momentOf?_eq_some_iff readFormat_fractional).mpr ⟨f, hfills.fraction, hresolve⟩

/-- The default format adds nothing to the fractional one, be it tried before or after it. -/
theorem or_momentOf?_fractional (text : String) :
    (momentOf? defaultFormat text).or (momentOf? fractionalFormat text) =
        momentOf? fractionalFormat text ∧
      (momentOf? fractionalFormat text).or (momentOf? defaultFormat text) =
        momentOf? fractionalFormat text := by
  cases hdefault : momentOf? defaultFormat text with
  | none => exact ⟨Option.none_or, Option.or_none⟩
  | some m =>
    rw [momentOf?_fractional hdefault]
    exact ⟨rfl, rfl⟩

/-- The default reader reads the fractional format, and names the default one in its errors. -/
theorem read_default (text : String) :
    DateReader.read {} text =
      match momentOf? fractionalFormat text with
      | some m => .ok m
      | none => .error ⟨text, defaultFormat⟩ := by
  show (match (momentOf? defaultFormat text).or (momentOf? fractionalFormat text) with
    | some m => Except.ok m
    | none => Except.error (DateError.mk text defaultFormat)) = _
  rw [(or_momentOf?_fractional text).1]

/-- **The fractional format is a conservative extension of the default one.** It reads all that
the default format reads as the same moment. The default reader therefore accepts exactly what
the fractional format accepts, with the same moment and whichever format is tried first, and
refuses everything else with the default format and the text. -/
theorem defaultFormat_conservative (text : String) :
    (∀ m, momentOf? defaultFormat text = some m → momentOf? fractionalFormat text = some m) ∧
      (momentOf? fractionalFormat text).or (momentOf? defaultFormat text) =
        (momentOf? defaultFormat text).or (momentOf? fractionalFormat text) ∧
      (∀ m, DateReader.read {} text = .ok m ↔ momentOf? fractionalFormat text = some m) ∧
      ∀ e, DateReader.read {} text = .error e ↔
        momentOf? fractionalFormat text = none ∧ e = ⟨text, defaultFormat⟩ := by
  obtain ⟨hbefore, hafter⟩ := or_momentOf?_fractional text
  refine ⟨fun m => momentOf?_fractional, hafter.trans hbefore.symm, ?_, ?_⟩
  all_goals
    rw [read_default]
    cases momentOf? fractionalFormat text <;> simp [eq_comm]

/-- An offset with white space in front of it and around its colon is no fraction either. -/
theorem defaultFormat_conservative_spaced :
    ∃ m, momentOf? defaultFormat "-0044-03-15T12:00:60 +01 : 30" = some m ∧
      momentOf? fractionalFormat "-0044-03-15T12:00:60 +01 : 30" = some m := by
  have hread : (momentOf? defaultFormat "-0044-03-15T12:00:60 +01 : 30").isSome = true := by
    decide +kernel
  obtain ⟨m, hm⟩ := Option.isSome_iff_exists.mp hread
  exact ⟨m, hm, (defaultFormat_conservative _).1 m hm⟩

end PropertyFilter.Calendar

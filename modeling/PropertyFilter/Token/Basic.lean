import PropertyFilter.Text.Bytes

/-!
  # Tokens

  A token is a stretch of a text together with what it stands for. Its span
  tells where the stretch lies, in bytes from the start of the text.
-/

namespace PropertyFilter

/-- A stretch of a text: byte offsets of its start and of its end. -/
structure Span where
  start : Nat
  stop : Nat
deriving DecidableEq, Repr, Inhabited

namespace Span

/-- The number of bytes in the span. -/
def length (s : Span) : Nat := s.stop - s.start

/-- A span that covers no byte. -/
def isEmpty (s : Span) : Bool := s.start == s.stop

/-- The span of the text `cs` when it begins at `start`. -/
def covering (start : Nat) (cs : List Char) : Span := ⟨start, start + Text.byteLength cs⟩

@[simp] theorem length_covering (start : Nat) (cs : List Char) :
    (covering start cs).length = Text.byteLength cs := by
  simp [covering, length]

end Span

/-- A token of kind `kind`: its exact text and where the text lies. -/
structure Token (κ : Type) where
  kind : κ
  text : String
  span : Span := default
deriving DecidableEq, Repr

/-- Raised by a scan at the first place that no rule can get past. -/
structure ScanError where
  /-- Byte offset at which the scan stopped. -/
  position : Nat
  /-- The text from there to the end. -/
  remaining : String
deriving DecidableEq, Repr

/-- The wording of a scan error. -/
def ScanError.message (e : ScanError) : String :=
  "Unexpected character in input : " ++ e.remaining

end PropertyFilter

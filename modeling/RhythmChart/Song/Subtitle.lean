import RhythmChart.Text.Blank

/-!
# Subtitles

Many charts write the subtitle behind the title, in brackets or between dashes. The styles
are tried in order, and within a style the title is made as long as possible.
-/

namespace RhythmChart

/-- A way to set off a subtitle. -/
structure SubtitleStyle where
  opening : Char
  closing : Char
  deriving DecidableEq, Repr

namespace SubtitleStyle

def all : List SubtitleStyle :=
  [⟨'-', '-'⟩, ⟨'～', '～'⟩, ⟨'(', ')'⟩, ⟨'[', ']'⟩, ⟨'<', '>'⟩]

/-- What stands before the closing character at the end of a title; a
line feed may follow it. -/
def beforeClosing? (style : SubtitleStyle) (title : Text) : Option Text :=
  match title.reverse with
  | [] => none
  | last :: rest =>
      if last = style.closing then some rest.reverse
      else if last = '\n' ∧ rest.head? = some style.closing then some rest.tail.reverse
      else none

/-- Looks backwards for the opening character. What was passed is the subtitle, and
what stands before it, without blanks at the end, is the title; neither may be
empty or hold a line feed. -/
def openingFrom? (style : SubtitleStyle) (passed : Text) : (before : Text) →
      Option (Text × Text)
  | [] => none
  | c :: before =>
      let title := Text.trimEnd before.reverse
      if c = style.opening ∧ passed ≠ [] ∧ title ≠ [] ∧ '\n' ∉ title then
        some (title, passed)
      else if c = '\n' then none
      else openingFrom? style (c :: passed) before

/-- Splits a subtitle in this style off, leaving the longest possible title. -/
def split? (style : SubtitleStyle) (title : Text) : Option (Text × Text) :=
  (beforeClosing? style title).bind fun body => openingFrom? style [] body.reverse

/-- Splits a subtitle off a title in the first style that fits; without one
the title is unchanged. -/
def splitTitle (title : Text) : Text × Option (List Text) :=
  match all.findSome? (·.split? title) with
  | some (title, subtitle) => (title, some [subtitle])
  | none => (title, none)

end SubtitleStyle

end RhythmChart

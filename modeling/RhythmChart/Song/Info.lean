import RhythmChart.Chart.Basic
import RhythmChart.Song.Subtitle

/-!
# Song information

Title, artist and the like are taken from headers. Unless the chart gives subtitles of its
own, a subtitle behind the title is split off.
-/

namespace RhythmChart

/-- What is known about a song. The difficulty runs from one
(beginner) to five (insane). -/
structure SongInfo where
  title : Text
  artist : Text
  genre : Text
  subtitles : List Text
  subartists : List Text
  difficulty : Int
  level : Int
  deriving DecidableEq, Repr

namespace SongInfo

def standard : SongInfo where
  title := "NO TITLE".toList
  artist := "NO ARTIST".toList
  genre := "NO GENRE".toList
  subtitles := []
  subartists := []
  difficulty := 0
  level := 0

/-- A header value, or what stands in for it when it is missing or empty. -/
def textOr (default : Text) (value : Option Text) : Text :=
  (value.filter fun text => !text.isEmpty).getD default

/-- The whole part of the number in a header; zero when there is none. -/
def whole (α : Type) [Scalar α] (headers : Headers) (name : Text) : Int :=
  (((headers.get? name).bind Text.number?).map (Scalar.truncate : α → Int)).getD 0

def present (values : Option (List (Option Text))) : List Text :=
  (values.getD []).filterMap id

/-- The song information in headers, with numbers read as scalars of one kind. -/
def ofHeaders (α : Type) [Scalar α] (headers : Headers) : SongInfo :=
  let subtitles := headers.getAll? "subtitle".toList
  let (title, subtitles) :=
    match headers.get? "title".toList, subtitles with
    | some title, none =>
        let (title, split) := SubtitleStyle.splitTitle title
        (some title, split.getD [])
    | title, given => (title, present given)
  { title := textOr standard.title title
    artist := textOr standard.artist (headers.get? "artist".toList)
    genre := textOr standard.genre (headers.get? "genre".toList)
    subtitles := subtitles
    subartists := present (headers.getAll? "subartist".toList)
    difficulty := whole α headers "difficulty".toList
    level := whole α headers "playlevel".toList }

end SongInfo

end RhythmChart

import RhythmChart.Chart.Code
import RhythmChart.Sorting
import RhythmChart.Text.Case
import RhythmChart.Text.Order

/-!
# Lanes

A lane map says which column the notes of a channel are played in. Channels are compared
in upper case, and of several entries for a channel the last counts. The player has seven
keys and a turntable; with double play there are two of each. Landmines have channels of
their own, one for each channel of notes, that lead to the same columns.
-/

namespace RhythmChart

/-- Columns by upper-case channel; the first entry for a channel counts. A channel may
be mapped to no column. -/
structure LaneMap where
  entries : List (Text × Option Text)
  deriving DecidableEq, Repr

namespace LaneMap

/-- The map with the given entries, of which the last for a channel counts. -/
def ofEntries (entries : List (Text × Option Text)) : LaneMap :=
  ⟨(entries.map fun (channel, column) => (Text.upper channel, column)).reverse⟩

def contains (map : LaneMap) (channel : Text) : Bool :=
  (map.entries.lookup channel).isSome

def column? (map : LaneMap) (channel : Text) : Option Text :=
  (map.entries.lookup channel).join

end LaneMap

namespace Lanes

abbrev Table := List (Code × Text)

def Table.toMap (table : Table) : LaneMap :=
  .ofEntries (table.map fun (channel, column) => (channel.text, some column))

/-- The channels of one player with seven keys and a turntable. -/
def player (digit : Char) (columns : List Text) : Table :=
  (['1', '2', '3', '4', '5', '8', '9', '6'].map (Code.mk digit)).zip columns

def firstColumns : List Text :=
  [['1'], ['2'], ['3'], ['4'], ['5'], ['6'], ['7'], ['S', 'C']]

def secondColumns : List Text :=
  [['8'], ['9'], ['1', '0'], ['1', '1'], ['1', '2'], ['1', '3'], ['1', '4'],
    ['S', 'C', '2']]

def first : Table := player '1' firstColumns

def second : Table := player '2' firstColumns

def double : Table := player '1' firstColumns ++ player '2' secondColumns

def landmineChannel (channel : Code) : Code :=
  ⟨if channel.first = '1' then 'D' else 'E', channel.second⟩

def landmines (table : Table) : Table :=
  table.map fun (channel, column) => (landmineChannel channel, column)

def named? (name : String) : Option Table :=
  [("IIDX_P1", first), ("IIDX_P2", second), ("IIDX_DP", double),
    ("IIDX_P1_LANDMINE", landmines first), ("IIDX_P2_LANDMINE", landmines second),
    ("IIDX_DP_LANDMINE", landmines double)].lookup name

def listing (table : Table) : Table :=
  sortBy (fun a b => Text.precedes a.1.text b.1.text) table

end Lanes

end RhythmChart

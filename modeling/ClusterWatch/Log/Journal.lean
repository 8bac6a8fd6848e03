import ClusterWatch.Log.Filter
/-!
# Journals

The log lines of a program as they pile up behind a filter.

- `Log.Journal`: the filter and the lines that it let pass.
- `Journal.write`: one more line.
-/

namespace ClusterWatch.Log

/-- The lines that a filter let pass. -/
structure Journal where
  filter : Filter
  lines : List Line := []
  deriving Repr

namespace Journal

/-- One more line, if the filter lets it pass. -/
def write (j : Journal) (line : Line) : Journal :=
  if j.filter.shows line then { j with lines := j.lines ++ [line] } else j

/-- Several more lines. -/
def writeAll (j : Journal) (lines : List Line) : Journal :=
  lines.foldl write j

end Journal

end ClusterWatch.Log

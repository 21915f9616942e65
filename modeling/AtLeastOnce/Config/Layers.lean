import AtLeastOnce.Config.Path

/-!
# Layers of configuration

Sources are laid over one another: tables are merged entry by entry, and anything
else replaces what was there.  The keys at the top of a source are paths.
-/

namespace AtLeastOnce.Config

mutual

/-- Lays a tree over the one below it. -/
def overlay : Tree → Tree → Tree
  | .leaf origin value, _ => .leaf origin value
  | .list origin items, _ => .list origin items
  | .table _ entries, below => .table below.tableOrigin? (overlayEntries entries below.entries)

/-- Lays entries over those of a table, one after the other. -/
def overlayEntries : List (String × Tree) → Entries → Entries
  | [], below => below
  | entry :: rest, below => overlayEntries rest (overlayEntry entry below)

def overlayEntry : String × Tree → Entries → Entries
  | (key, tree), below => below.change key fun below => overlay tree below

end

/-- Lays one entry of a source over a configuration. -/
def layEntry (below : Entries) (entry : String × Tree) : Entries :=
  below.changePath (Path.ofKey entry.1) (overlay entry.2)

/-- Lays a source over a configuration. -/
def layer (below source : Entries) : Entries := source.foldl layEntry below

/-- The configuration of some sources, later ones above earlier ones. -/
def layers (sources : List Entries) : Entries := sources.foldl layer []

end AtLeastOnce.Config

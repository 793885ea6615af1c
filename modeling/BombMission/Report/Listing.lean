import BombMission.Context
import BombMission.Report.Compilation

/-!
# Listings

A listing shows every word that a pool may name: the aggregates, the ids of modules and the keywords
of profiles, each with what it stands for.
-/

namespace BombMission.Report

/-- The width of the column for words. Control sequences count. -/
def wordWidth : Nat := 24

def wordRow (colored : Bool) (style : Style) (entry : Entry) : String :=
  "  " ++ padTo wordWidth (paint colored style entry.id) ++ " " ++ paint colored .dim entry.name

def wordRows (colored : Bool) (title : String) (style : Style) (entries : List Entry) :
    List String :=
  sectionTitle colored title ++ entries.map (wordRow colored style)

def aggregateEntry (aggregate : Aggregate) : Entry :=
  { id := aggregate.keyword, name := aggregate.description }

def listing (colored : Bool) (ctx : Context) : List String :=
  let keywords := ctx.profiles.keywords ctx.catalog
  wordRows colored "Pools" .cyan (Aggregate.all.map aggregateEntry) ++
    wordRows colored "Modules" .blue ctx.catalog.entries ++
    (if keywords.isEmpty then [] else wordRows colored "Profiles" .green keywords) ++
    [""]

end BombMission.Report

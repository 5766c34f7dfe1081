/-
What a command prints.

* `Report.order`, `Report.document`: a resolution as lines of site and module,
  and in full as JSON.
* `Report.counts`: one line of counts.
* `Report.facts`, `Report.verdict`: what is known of one module, and what the
  conditions make of it.
-/
import Activation.Resolver
import Activation.Text.Json

namespace Activation.Report

open Text (Json)

/-- The modules in activation order, each on a line behind its site. -/
def order (resolution : Resolution) : String :=
  String.join (resolution.imports.map fun found => found.site ++ "\t" ++ found.id ++ "\n")

/-- An activated module with its site. -/
def importJson (found : Import) : Json :=
  .object [("site", .text found.site), ("id", .text found.id)]

/-- A rejected candidate with its filter. -/
def rejectionJson (rejection : Rejection) : Json :=
  .object [("id", .text rejection.id), ("filter", .text rejection.filter)]

/-- An entry. -/
def entryJson (entry : Entry) : Json :=
  .object
    [("configurations", .texts entry.configurations), ("exclusions", .texts entry.exclusions.toList)]

/-- The report on a site. -/
def siteJson (report : SiteReport) : Json :=
  .object
    [("site", .text report.site), ("entry", entryJson report.entry),
      ("rejected", .array (report.rejected.map rejectionJson))]

/-- A resolution in full. -/
def document (resolution : Resolution) : String :=
  Json.render (.object
    [("imports", .array (resolution.imports.map importJson)),
      ("sites", .array (resolution.sites.map siteJson))]) ++ "\n"

/-- The number of candidates that conditions rejected, over all sites. -/
def rejectedCount (resolution : Resolution) : Nat :=
  (resolution.sites.flatMap SiteReport.rejected).length

/-- The numbers of sites, of activated and of rejected modules, and of exclusions. -/
def counts (resolution : Resolution) : String :=
  "ok: " ++ toString resolution.sites.length ++ " sites, "
    ++ toString resolution.imports.length ++ " modules activated, "
    ++ toString (rejectedCount resolution) ++ " filtered, "
    ++ toString resolution.exclusions.size ++ " excluded\n"

/-- A line with a label and a value that starts in the fourteenth column. -/
def labelled (label value : String) : String :=
  label ++ ":" ++ String.ofList (List.replicate (12 - label.length) ' ') ++ value ++ "\n"

/-- A Boolean as a word. -/
def flag (value : Bool) : String := if value then "true" else "false"

/-- A set of ids, with a hyphen for the empty one. -/
def ids (set : IdSet) : String :=
  if set.isEmpty then "-" else ", ".intercalate set.toList

/-- The attributes of a module, each on a line. -/
def attributes (index : Index) (id : ModuleId) : String :=
  match index.attributes? id with
  | none => ""
  | some table =>
    String.join (table.entries.map fun entry => "  " ++ entry.1 ++ " = " ++ entry.2 ++ "\n")

/-- What a catalog and the index know of a module. -/
def facts (catalog : Catalog) (index : Index) (id : ModuleId) : String :=
  let found := index.factsOf id
  labelled "module" id
    ++ labelled "candidate" (flag (decide (id ∈ catalog.candidates)))
    ++ labelled "resolvable" (flag (catalog.isResolvable id))
    ++ labelled "priority" (toString found.priority)
    ++ labelled "before" (ids found.before)
    ++ labelled "after" (ids found.after)
    ++ labelled "before-all" (flag found.beforeAll)
    ++ labelled "after-all" (flag found.afterAll)
    ++ attributes index id

/-- Whether the conditions reject a module. -/
def verdict (rejected : Bool) : String :=
  labelled "filtered" (flag rejected)

end Activation.Report

import MeshSync.LogFilter.Directive

/-! # Log filter

    Which messages are logged, per target.  A setting is either a bare level,
    which then holds for the program and for its admin interface, or a list of
    directives; one that cannot be understood gives the default. -/

namespace MeshSync

/-- The directives in force: those decided without looking into spans, and
    those about spans.  One may be both. -/
structure LogFilter where
  plain : List LogFilter.Directive
  ofSpans : List LogFilter.Directive
  deriving DecidableEq, Inhabited

namespace LogFilter

/-- The filter of directives, of which a later one counts where two speak of the
    same messages. -/
def ofDirectives (ds : List Directive) : LogFilter :=
  let (spans, others) := ds.partition (·.isOfSpans)
  ⟨(others ++ spans.filter (·.isPlain)).foldl Directive.replace [],
    spans.foldl Directive.replace []⟩

/-- All directives. -/
def directives (f : LogFilter) : List Directive := f.plain ++ f.ofSpans

/-- What is used where nothing is set. -/
def standard : LogFilter := ofDirectives [.ofTarget "mesh_sidecar" .info]

/-- The filter that a list of directives separated by commas gives; a list of
    none of them lets errors through. -/
def parse? (s : String) : Option LogFilter :=
  let parts := (Text.splitChars (· = ',') s.toList).filter (!·.isEmpty)
  match parts.mapM Directive.parse? with
  | none => none
  | some [] => some (ofDirectives [{ Directive.anything with level := .error }])
  | some ds => some (ofDirectives ds)

/-- The filter for a setting. -/
def ofSetting (level : Option String) : LogFilter :=
  match level with
  | none => standard
  | some l =>
    let s := if l.contains '=' then l else s!"mesh_sidecar={l},tower_http={l}"
    (parse? s).getD standard

end LogFilter

end MeshSync

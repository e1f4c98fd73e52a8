import RouteAtlas.Document.Field
import RouteAtlas.Index.Basic
import RouteAtlas.Json.Value

/-!
# Indexes as documents

Reading an index from a document and writing it as one. Documents name the fields of records and
indexes in camel case. The reader understands the names with low lines as well; the writer uses a
fixed order of keys and leaves out what a route does not have.

All fields are checked before anything is said of how they fit together, so a document at fault is
reported with everything that is wrong with its fields, and only a document whose fields are right
is reported for a controller with a method or for an identifier that comes twice.

Nothing is asked of texts but of identifiers, which must not be empty and so have to be encodable.
All other texts may hold halves of surrogate pairs, which is why both directions are about indexes
of code points. Such an index is read back from its document like any other; that it cannot be
written to a file is for the bytes of a document to say.
-/

/-! ## Reading -/

namespace RouteAtlas.Decode

/-- The kind of a route. -/
def kind : Json → Checked Kind
  | .str s =>
    match s.toText?.bind Kind.ofTag? with
    | some k => .ok k
    | none => .fail .notMember
  | _ => .fail .notMember

/-- The HTTP method of a route, in any case, or none. -/
def method : Json → Checked (Option Method)
  | .null => .ok none
  | .str s =>
    match s.toText?.bind fun name => Method.ofName? (Text.upper name) with
    | some m => .ok (some m)
    | none => .fail .notMember
  | _ => .fail .notMember

/-- A path, where nothing counts as the empty path. -/
def path : Json → Checked CodeText
  | .null => .ok []
  | value => Field.codeText value

/-- Where a route is declared. -/
def source (value : Json) : Checked (Source CodePoint) := do
  let fields ← Field.object value
  let (file, line) ←
    (Field.required ["file"] Field.codeText fields).both
      (Field.required ["line"] (Field.integerFrom 1) fields)
  .ok ⟨file, line.val.toNat, by have := line.property; omega⟩

/-- The controller and the action of a route. -/
def symbols (value : Json) : Checked (CodeText × Option CodeText) := do
  let fields ← Field.object value
  (Field.required ["controller"] Field.codeText fields).both
    (Field.optional ["action"] none Field.optionalCodeText fields)

/-- A route record. -/
def record (value : Json) : Checked (Record CodePoint) := do
  let fields ← Field.object value
  let (id, kind, method, path, source, controller, action) ←
    (Field.required ["id"] Field.nonEmptyText fields).both <|
    (Field.required ["type", "kind"] kind fields).both <|
    (Field.optional ["httpMethod", "http_method"] none method fields).both <|
    (Field.optional ["path"] [] path fields).both <|
    (Field.required ["source"] source fields).both <|
    Field.required ["symbols"] symbols fields
  match Role.ofParts? kind method action with
  | .ok role => .ok ⟨id.val, path, source, controller, role, id.property⟩
  | .error fault => .fail (.refused (fault.message id.val))

/-- What was indexed. -/
def project (value : Json) : Checked (Project CodePoint) := do
  let fields ← Field.object value
  let (root, language, framework) ←
    (Field.required ["root"] Field.codeText fields).both <|
    (Field.required ["language"] Field.codeText fields).both <|
    Field.required ["framework"] Field.codeText fields
  .ok ⟨root, language, framework⟩

/-- The routes of an index. -/
def routes (value : Json) : Checked (List (Record CodePoint)) := do
  let items ← Field.list value
  Checked.items record 0 items

/-- A route index. -/
def index (value : Json) : Checked (Index CodePoint) := do
  let fields ← Field.object value
  let (version, generatedAt, project, routes) ←
    (Field.required ["version"] Field.integer fields).both <|
    (Field.required ["generatedAt", "generated_at"] Field.codeText fields).both <|
    (Field.required ["project"] project fields).both <|
    Field.optional ["routes"] [] routes fields
  match Index.ofParts? version generatedAt project routes with
  | .ok index => .ok index
  | .error id => .fail (.refused ("Duplicate route id: ".toList ++ id))

end RouteAtlas.Decode

/-! ## Writing -/

namespace RouteAtlas.Encode

/-- A field that is left out when there is nothing to say. -/
def present (key : String) : Option CodeText → List (String × Json)
  | none => []
  | some value => [(key, .str value)]

/-- A record as a document. -/
def record (r : Record CodePoint) : Json :=
  .fields <|
    [("id", .text r.id), ("type", .text r.kind.tag)]
      ++ present "httpMethod" (r.method?.map fun method => CodeText.ofText method.name)
      ++ [("path", .str r.path),
          ("source", .fields [("file", .str r.source.file), ("line", .int r.source.line)]),
          ("symbols", .fields (("controller", .str r.controller) :: present "action" r.action?))]

/-- What was indexed, as a document. -/
def project (p : Project CodePoint) : Json :=
  .fields [("root", .str p.root), ("language", .str p.language), ("framework", .str p.framework)]

/-- An index as a document. -/
def index (i : Index CodePoint) : Json :=
  .fields
    [("version", .int i.version), ("generatedAt", .str i.generatedAt),
     ("project", project i.project), ("routes", .arr (i.routes.map record))]

end RouteAtlas.Encode

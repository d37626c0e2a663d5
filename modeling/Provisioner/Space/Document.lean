import Provisioner.Text.Characters
import Provisioner.Json.Record
/-!
# The document of a space

A space keeps its tables and its sample questions in one JSON document, as a text:

    {"version":1,
     "config":{"sample_questions":[{"id":"<32 digits>","question":["<text>"]}]},
     "data_sources":{"tables":[{"identifier":"<catalog.schema.table>"}]}}

The list of questions is left out when there are none, the list of tables never is. A writer always
writes the whole document anew. A reader is more lenient than the writer: null or nothing may stand
for any part, unknown members are ignored, and a question without a text is passed over. No text at
all is the document of a space that has none yet.
-/

namespace Provisioner.Space

/-!
## Identifiers of sample questions

Every question of a document has an identifier, a random UUID of version four without its dashes:
of the 32 digits the thirteenth is `4` and the seventeenth one of `8 9 a b`. Identifiers are made
afresh each time a document is written and mean nothing to a reader, so what is done with a document
must not depend on them. `maskIds` covers them up wherever they stand in a text.
-/

open Text (hexDigit hexPadded)

/-- The free digits of an identifier, each group of them as one number. -/
structure QuestionId where
  /-- The first twelve digits. -/
  head : Fin 0x1000000000000
  /-- The three digits behind the version. -/
  middle : Fin 0x1000
  /-- Which of its four digits the seventeenth is. -/
  variant : Fin 4
  /-- The last fifteen digits. -/
  tail : Fin 0x1000000000000000
deriving DecidableEq, Repr

namespace QuestionId

def digits (id : QuestionId) : List Char :=
  hexPadded 12 id.head ++ '4' :: (hexPadded 3 id.middle ++
    hexDigit (8 + id.variant) :: hexPadded 15 id.tail)

def text (id : QuestionId) : String := String.ofList id.digits

@[simp] theorem length_digits (id : QuestionId) : id.digits.length = 32 := by
  simp [digits]

end QuestionId

/-- An endless supply of identifiers, the `n`-th for the `n`-th question of a document. -/
abbrev IdSupply := Nat → QuestionId

/-! ### Finding identifiers in a text -/

/-- A digit as identifiers have it: in lower case. -/
def isIdDigit (c : Char) : Bool := ('0' ≤ c && c ≤ '9') || ('a' ≤ c && c ≤ 'f')

def isId (cs : List Char) : Bool :=
  cs.length == 32 && cs.all isIdDigit && cs[12]? == some '4' &&
    (cs[16]?.any fun c => c == '8' || c == '9' || c == 'a' || c == 'b')

/-- What stands in front of an identifier. -/
def idLead : List Char := ['"', 'i', 'd', '"', ':', '"']

/-- The identifier in front of a text, if it stands there in its place: behind its key and in front
    of a closing quote. -/
def idHere? (cs : List Char) : Option (List Char) :=
  if idLead.isPrefixOf cs then
    let id := (cs.drop idLead.length).take 32
    if isId id && (cs[idLead.length + 32]? == some '"') then some id else none
  else none

/-- What covers an identifier. -/
def idCover : List Char := ['*']

/-- A text with all identifiers in it covered, and these identifiers in order. The search goes on
    right behind each one. -/
def maskIds (cs : List Char) : List Char × List (List Char) :=
  match cs with
  | [] => ([], [])
  | c :: rest =>
      match idHere? (c :: rest) with
      | some id =>
          let (masked, ids) := maskIds (rest.drop 37)
          (idLead ++ idCover ++ masked, id :: ids)
      | none =>
          let (masked, ids) := maskIds rest
          (c :: masked, ids)
termination_by cs.length

/-- A text with all identifiers in it covered. -/
def masked (s : String) : String := String.ofList (maskIds s.toList).1

/-! ## Contents -/

open Json (Codec Field)

/-- What a document says: the tables and the sample questions, each in order. -/
structure Contents where
  tables : List String
  sampleQuestions : List String
deriving DecidableEq, Repr

def Contents.empty : Contents := ⟨[], []⟩

/-! ### The parts of a document -/

/-- A sample question. Of its texts only the first one counts. -/
structure Question where
  id : String
  texts : List String
deriving DecidableEq, Repr

structure Table where
  identifier : String
deriving DecidableEq, Repr

structure Config where
  sampleQuestions : List Question
deriving DecidableEq, Repr

structure DataSources where
  tables : List Table
deriving DecidableEq, Repr

structure Document where
  version : UInt32
  config : Config
  dataSources : DataSources
deriving DecidableEq, Repr

def Question.fields : List Field :=
  [.defaulting "id" .string "", .nullable "question" (.list .string) []]

def Question.codec : Codec Question :=
  (Codec.record "SampleQuestion" fields).map
    (fun (id, texts, ()) => ⟨id, texts⟩)
    (fun q => (q.id, q.texts, ()))

def Table.fields : List Field := [.nullable "identifier" .string ""]

def Table.codec : Codec Table :=
  (Codec.record "TableSource" fields).map
    (fun (identifier, ()) => ⟨identifier⟩)
    (fun t => (t.identifier, ()))

def Config.fields : List Field :=
  [{ Field.nullable "sample_questions" (.list Question.codec) [] with omitted := List.isEmpty }]

def Config.codec : Codec Config :=
  (Codec.record "SpaceConfig" fields).map
    (fun (sampleQuestions, ()) => ⟨sampleQuestions⟩)
    (fun c => (c.sampleQuestions, ()))

def DataSources.fields : List Field := [.nullable "tables" (.list Table.codec) []]

def DataSources.codec : Codec DataSources :=
  (Codec.record "SpaceDataSources" fields).map
    (fun (tables, ()) => ⟨tables⟩)
    (fun d => (d.tables, ()))

def Document.fields : List Field :=
  [.nullable "version" .word 0, .nullable "config" Config.codec ⟨[]⟩,
   .nullable "data_sources" DataSources.codec ⟨[]⟩]

def Document.codec : Codec Document :=
  (Codec.record "SpaceDocument" fields).map
    (fun (version, config, dataSources, ()) => ⟨version, config, dataSources⟩)
    (fun d => (d.version, d.config, d.dataSources, ()))

/-! ### Contents and documents -/

def documentVersion : UInt32 := 1

/-- The document that says `c`. -/
def Contents.document (c : Contents) (ids : IdSupply) : Document :=
  { version := documentVersion
    config := ⟨c.sampleQuestions.mapIdx fun n text => ⟨(ids n).text, [text]⟩⟩
    dataSources := ⟨c.tables.map Table.mk⟩ }

def Document.contents (d : Document) : Contents :=
  { tables := d.dataSources.tables.map Table.identifier
    sampleQuestions := d.config.sampleQuestions.filterMap fun q => q.texts.head? }

/-- The text of the document that says `c`. -/
def Contents.encode (c : Contents) (ids : IdSupply) : String :=
  Document.codec.toText (c.document ids)

def Contents.decode (raw : String) : Except Json.Error Contents :=
  if raw.isEmpty then .ok .empty else (Document.codec.ofText raw).map Document.contents

end Provisioner.Space

import Mathlib
import TagAtlas.Proofs.DictContents
import TagAtlas.Proofs.Fingerprints
import TagAtlas.Proofs.JsonDocumentReading
import TagAtlas.Survey.Project

/-!
# File summaries in documents

A file summary that is printed as a document and read again is the same summary, unless one of its
numbers is too large to be read, and then nothing is.
-/

namespace TagAtlas

namespace Json

variable {α : Type} {write : α → Json} {read : Json → Option α}

/-- Whatever is read from what was written is the value that was written. -/
def Faithful (write : α → Json) (read : Json → Option α) : Prop :=
  ∀ a b, read (reread (write a)) = some b → b = a

theorem faithful_string : Faithful .string string? := fun _ _ hb => (Option.some.inj hb).symm

theorem faithful_nat (bound : Nat) : Faithful ofNat (nat? bound) := by
  intro n b hb
  rw [reread_ofNat, rereadNat] at hb
  split at hb
  · simp only [ofNat, nat?] at hb
    split at hb
    · cases hb
      rfl
    · cases hb
  · cases hx : nearest? n 0 <;> rw [hx] at hb <;> cases hb

theorem faithful_list (h : Faithful write read) :
    Faithful (fun l => .array (l.map write)) (list? read) := by
  intro l out hout
  rw [reread_array, List.map_map] at hout
  change (l.map (reread ∘ write)).mapM read = some out at hout
  induction l generalizing out with
  | nil => simpa using hout
  | cons a l ih =>
    simp only [List.map_cons, List.mapM_cons, Option.bind_eq_bind, Option.bind_eq_some_iff,
      Option.pure_def, Option.some.injEq] at hout
    obtain ⟨b, hb, bs, hbs, rfl⟩ := hout
    rw [h a b hb, ih bs hbs]

theorem reread_ofDict (d : Dict String) : reread (ofDict .string d) = ofDict .string d := by
  rw [ofDict, reread_object, List.map_map]
  rfl

theorem faithful_dict : Faithful (ofDict .string) (dict? string?) := by
  intro d out hout
  have hread : ∀ l : List (String × String),
      (l.map fun e => (e.1, Json.string e.2)).mapM (fun m => (string? m.2).map (m.1, ·)) =
        some l := by
    intro l
    induction l with
    | nil => rfl
    | cons e l ih =>
      rw [List.map_cons, List.mapM_cons, ih]
      rfl
  rw [reread_ofDict] at hout
  simp only [ofDict, dict?, hread, Option.map_some, Option.some.injEq, Dict.ofList_entries] at hout
  exact hout.symm

/-! ### Records -/

theorem lookup_map_reread (members : List (String × Json)) (name : String) :
    (members.map fun m => (m.1, reread m.2)).lookup name = (members.lookup name).map reread := by
  induction members with
  | nil => rfl
  | cons m members ih =>
    rw [List.map_cons, List.lookup_cons, List.lookup_cons]
    cases name == m.1 with
    | true => rfl
    | false => exact ih

theorem lookup_field? (key name : String) (o : Option α) :
    (field? key write o).lookup name = if name = key then o.map write else none := by
  cases o with
  | none => simp [field?]
  | some a =>
    rw [field?, List.lookup_cons]
    by_cases h : name = key
    · simp [h]
    · rw [beq_eq_false_iff_ne.mpr h, if_neg h]
      rfl

namespace Record

def Reflects (r : Record) (members : List (String × Json)) : Prop :=
  ∀ name, r.fields.lookup name = (members.lookup name).map reread

theorem reflects_of_record? {members : List (String × Json)} {names : List String} {r : Record}
    (hr : (reread (.object members)).record? names = some r) : r.Reflects members := by
  rw [reread_object] at hr
  simp only [record?] at hr
  split at hr
  · cases hr
    exact lookup_map_reread members
  · cases hr

variable {r : Record} {members : List (String × Json)} {name : String}

theorem Reflects.required (h : r.Reflects members) (hf : Faithful write read) {a b : α}
    (hl : members.lookup name = some (write a)) (hr : r.required name read = some b) : b = a := by
  rw [Record.required, h name, hl] at hr
  exact hf a b hr

theorem Reflects.defaulted (h : r.Reflects members) (hf : Faithful write read) {a b d : α}
    (hl : members.lookup name = some (write a)) (hr : r.defaulted name d read = some b) :
    b = a := by
  rw [Record.defaulted, h name, hl] at hr
  exact hf a b hr

theorem Reflects.optional (h : r.Reflects members) {o b : Option String}
    (hl : members.lookup name = o.map .string) (hr : r.optional name string? = some b) :
    b = o := by
  rw [Record.optional, h name, hl] at hr
  cases o with
  | none => exact (Option.some.inj hr).symm
  | some text => exact (Option.some.inj hr).symm

end Record

end Json

/-! ### Symbols, tags and summaries -/

open Json (Plain lookup_field? faithful_string faithful_nat faithful_list faithful_dict)

theorem SymbolKind.faithful :
    Json.Faithful (fun k : SymbolKind => .string k.name) (Json.choice? SymbolKind.named) := by
  intro k b hb
  have hnamed : SymbolKind.named.lookup k.name = some k := by cases k <;> decide
  exact Option.some.inj (hb.symm.trans hnamed)

theorem Symbol.faithful : Json.Faithful Symbol.toJson Symbol.ofJson? := by
  intro s b hb
  simp only [Symbol.ofJson?, Option.bind_eq_bind, Option.bind_eq_some_iff, Option.pure_def,
    Option.some.injEq] at hb
  obtain ⟨r, hr, name, hname, kind, hkind, line, hline, rfl⟩ := hb
  have h := Json.Record.reflects_of_record? hr
  have hname : name = s.name := h.required faithful_string (by simp [List.lookup]) hname
  have hkind : kind = s.kind := h.required SymbolKind.faithful (by simp [List.lookup]) hkind
  have hline : line = s.line := h.required (faithful_nat _) (by simp [List.lookup]) hline
  rw [hname, hkind, hline]

theorem Tag.faithful : Json.Faithful Tag.toJson Tag.ofJson? := by
  intro t b hb
  simp only [Tag.ofJson?, Option.bind_eq_bind, Option.bind_eq_some_iff, Option.pure_def,
    Option.some.injEq] at hb
  obtain ⟨r, hr, type, htype, value, hvalue, attributes, hattributes, line, hline, content,
    hcontent, symbol, hsymbol, file, hfile, rfl⟩ := hb
  have h := Json.Record.reflects_of_record? hr
  have htype : type = t.type.name := h.required faithful_string (by simp) htype
  have hvalue : value = t.value :=
    h.optional (by simp [List.lookup_append, lookup_field?, List.lookup]) hvalue
  have hattributes : attributes = t.attributes := h.defaulted faithful_dict
    (by simp [List.lookup_append, lookup_field?, List.lookup]) hattributes
  have hline : line = t.line := h.required (faithful_nat _)
    (by simp [List.lookup_append, lookup_field?, List.lookup]) hline
  have hcontent : content = t.content := h.required faithful_string
    (by simp [List.lookup_append, lookup_field?, List.lookup]) hcontent
  have hsymbol : symbol = t.symbol :=
    h.optional (by simp [List.lookup_append, lookup_field?, List.lookup]) hsymbol
  have hfile : file = t.file :=
    h.optional (by simp [List.lookup_append, lookup_field?, List.lookup]) hfile
  rw [htype, hvalue, hattributes, hline, hcontent, hsymbol, hfile]

namespace FileSummary

theorem faithful : Json.Faithful FileSummary.toJson FileSummary.ofJson? := by
  intro f b hb
  simp only [FileSummary.ofJson?, Option.bind_eq_bind, Option.bind_eq_some_iff, Option.pure_def,
    Option.some.injEq] at hb
  obtain ⟨r, hr, path, hpath, package, hpackage, moduleName, hmodule, imports, himports, tags,
    htags, symbols, hsymbols, lineCount, hlineCount, size, hsize, rfl⟩ := hb
  have h := Json.Record.reflects_of_record? hr
  have hpath : path = f.path := h.required faithful_string (by simp) hpath
  have hpackage : package = f.packageName :=
    h.required faithful_string (by simp [List.lookup]) hpackage
  have hmodule : moduleName = f.moduleName :=
    h.optional (by simp [List.lookup_append, lookup_field?, List.lookup]) hmodule
  have himports : imports = f.imports := h.required (faithful_list faithful_string)
    (by simp [List.lookup_append, lookup_field?, List.lookup, Json.ofStrings]) himports
  have htags : tags = f.tags := h.required (faithful_list Tag.faithful)
    (by simp [List.lookup_append, lookup_field?, List.lookup]) htags
  have hsymbols : symbols = f.symbols := h.required (faithful_list Symbol.faithful)
    (by simp [List.lookup_append, lookup_field?, List.lookup]) hsymbols
  have hlineCount : lineCount = f.lineCount := h.required (faithful_nat _)
    (by simp [List.lookup_append, lookup_field?, List.lookup]) hlineCount
  have hsize : size = f.size := h.required (faithful_nat _)
    (by simp [List.lookup_append, lookup_field?, List.lookup]) hsize
  rw [hpath, hpackage, hmodule, himports, htags, hsymbols, hlineCount, hsize]

end FileSummary

/-! ### Kept bytes -/

namespace Json

theorem plain_field? (key : String) (o : Option String) :
    ∀ m ∈ field? key .string o, Plain m.2 := by
  cases o with
  | none => simp [field?]
  | some text => simpa [field?] using Plain.string text

theorem plain_ofStrings (texts : List String) : Plain (ofStrings texts) :=
  .array (List.forall_mem_map.mpr fun text _ => .string text)

theorem plain_ofDict (d : Dict String) : Plain (ofDict .string d) :=
  .object (List.forall_mem_map.mpr fun e _ => .string e.2)

end Json

theorem Symbol.plain_toJson (s : Symbol) : Plain s.toJson := by
  refine .object fun m hm => ?_
  simp only [List.mem_cons, List.not_mem_nil, or_false] at hm
  rcases hm with rfl | rfl | rfl
  · exact .string ..
  · exact .string ..
  · exact .nat ..

theorem Tag.plain_toJson (t : Tag) : Plain t.toJson := by
  refine .object fun m hm => ?_
  simp only [List.mem_append, List.mem_cons, List.not_mem_nil, or_false] at hm
  rcases hm with (((rfl | hm) | rfl | rfl | rfl) | hm) | hm
  · exact .string ..
  · exact Json.plain_field? _ _ m hm
  · exact Json.plain_ofDict ..
  · exact .nat ..
  · exact .string ..
  · exact Json.plain_field? _ _ m hm
  · exact Json.plain_field? _ _ m hm

theorem FileSummary.plain_toJson (f : FileSummary) : Plain f.toJson := by
  refine .object fun m hm => ?_
  simp only [List.mem_append, List.mem_cons, List.not_mem_nil, or_false] at hm
  rcases hm with ((rfl | rfl) | hm) | rfl | rfl | rfl | rfl | rfl
  · exact .string ..
  · exact .string ..
  · exact Json.plain_field? _ _ m hm
  · exact Json.plain_ofStrings ..
  · exact .array (List.forall_mem_map.mpr fun t _ => t.plain_toJson)
  · exact .array (List.forall_mem_map.mpr fun s _ => s.plain_toJson)
  · exact .nat ..
  · exact .nat ..

theorem Json.parseBytes?_textBytes (s : String) :
    parseBytes? ⟨(Fingerprint.textBytes s).toArray⟩ = parse? s := by
  have hbytes : (⟨(Fingerprint.textBytes s).toArray⟩ : ByteArray) = s.toUTF8 := by
    rw [Fingerprint.textBytes, byteArray_toList_eq]
  have htext : String.fromUTF8? s.toUTF8 = some s := dif_pos s.isValidUTF8
  rw [parseBytes?, hbytes, htext, Option.bind_some]

theorem Surveyor.unpacked?_packed (f : FileSummary) :
    unpacked? (packed f) = FileSummary.ofJson? (Json.reread f.toJson) := by
  rw [unpacked?, packed, Json.parseBytes?_textBytes, Json.parse?_compact f.plain_toJson,
    Option.bind_some]

/-- Kept bytes hold the summary that was packed, if they hold any. -/
theorem Surveyor.eq_of_unpacked?_packed {f g : FileSummary} (h : unpacked? (packed f) = some g) :
    g = f := by
  rw [unpacked?_packed] at h
  exact FileSummary.faithful f g h

end TagAtlas

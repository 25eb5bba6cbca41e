import Foundry.Proofs.Factory.Encoded
import Foundry.Proofs.Factory.Meaning
import Foundry.Proofs.Pass.Footprint
import Foundry.Proofs.Text.Dotted

/-!
Written modules as whoever imports them reads them. The configured encoding is not named in the
file, so whatever codec it has, the text that was rendered comes back when its bytes are also UTF-8:
in UTF-8 itself, behind a mark or without one, or in an encoding of one byte where every character
is plain.
-/

namespace Foundry

open Text

theorem Filer.exists_of_encodeAs {codec : Except NoCodec Codec} {text : String} {bytes : Bytes}
    (h : encodeAs codec text = .ok bytes) :
    ∃ k, codec = .ok k ∧ k.encode text = .ok bytes := by
  unfold encodeAs at h
  cases codec with
  | error p => cases h
  | ok k =>
    simp only at h
    cases hbytes : k.encode text with
    | error x =>
      rw [hbytes] at h
      cases h
    | ok own =>
      rw [hbytes] at h
      exact ⟨k, rfl, hbytes.trans (congrArg Except.ok (Except.ok.inj h))⟩

namespace Factory

variable {p : Plan} {codecs : Codecs} {classes : Classes} {bytes : Bytes}

/-- The name of a group announces no encoding. -/
theorem opens_of_ofTexts? (runtimeModule : String)
    (h : QualifiedName.ofTexts? p.group.module p.group.qualname = .ok p.group) :
    Opens (render runtimeModule p).toList := by
  obtain ⟨hmodule, hqualname⟩ := QualifiedName.isDotted_of_ofTexts? h
  have hfree : ∀ c, isBlank c = false → c ≠ '.' → isWordStart c = false → isWordPart c = false →
      c ∉ p.group.text.toList := by
    intro c hblank hdot hstart hpart
    rw [QualifiedName.text, String.toList_append, String.toList_append]
    simp only [List.mem_append, not_or]
    exact ⟨⟨Name.notMem_of_isDotted hmodule hblank hdot hstart hpart, by simpa using hdot⟩,
      Name.notMem_of_isDotted hqualname hblank hdot hstart hpart⟩
  exact opens_render runtimeModule (hfree ':' (by decide) (by decide) (by decide) (by decide))
    (hfree '=' (by decide) (by decide) (by decide) (by decide))

theorem identifiers_mem_lines (runtimeModule : String) (p : Plan) :
    "    identifiers = " ++ tupleText p.identifiers ∈ lines runtimeModule p := by
  rw [lines_eq]
  simp

/-- A module that is read as it was rendered has the identifiers of its plan. -/
theorem identifiers_of_decodeSource {runtimeModule : String} (hsound : p.Sound)
    (hplain : Plain runtimeModule p.factoryName p.targets) (hopen : p.Unshadowed)
    (hpresent : ∀ c ∈ p.targets, Present classes c)
    (h : decodeSource codecs bytes = some (render runtimeModule p)) :
    ∃ m, (decodeSource codecs bytes).map (Generated.ofText classes) = some (.ok m) ∧
      m.identifiers = .tuple (p.identifiers.map .text) := by
  refine ⟨p.executed classes, ?_, identifiers_executed p classes⟩
  rw [h, Option.map_some, ofText_render_executed hsound hplain hopen hpresent]

/-- How a file that a codec made of a text is read as a source: what its bytes must be, if they name
no encoding, and what comes of the encodings of this library. -/
structure ReadsBack (codecs : Codecs) (k : Codec) (s : String) (bytes : Bytes) : Prop where
  silent : Silent (unmarked bytes) → (decodeSource codecs bytes = some s ↔
    ∃ cs, unmarked bytes = Encoding.bytesOf .utf8 cs ∧ unifyLineEnds cs = s.toList)
  utf8 : unmarked bytes = Encoding.bytesOf .utf8 s.toList →
    (decodeSource codecs bytes = some s ↔ '\r' ∉ s.toList)
  known : ∀ e : Encoding, k = e.toCodec → (decodeSource codecs bytes = some s ↔
    '\r' ∉ s.toList ∧ (e.IsUtf8 ∨ e.IsTable ∧ ∀ x ∈ s.toList, x.toNat < 128))

theorem Opens.readsBack {k : Codec} {s : String} (h : Opens s.toList)
    (hbytes : k.encode s = .ok bytes) : ReadsBack codecs k s bytes where
  silent hsilent := hsilent.decodeSource_iff
  utf8 hutf8 := h.decodeSource_iff hutf8
  known e he := by
    subst he
    exact decodeSource_encode_iff h hbytes

end Factory

namespace Pass

open Factory Query

/-- Every artifact of a pass has its text in its file, encoded. -/
theorem artifacts_encoded {σ : Type} (q : Provider σ) (c : Config) (dir : Path)
    (codec : Except NoCodec Codec)
    (calls : List (Call (World σ) × World σ)) {w w' : World σ} {result : PassResult} {p' : Pass}
    (hrun : (finish (World.host q)).run
      (driven (World.host q) (fresh c (Filer.make dir codec)) calls, w) =
        (.ok result, p', w')) :
    ∀ a ∈ result.artifacts, a.plan.Sound ∧ ∃ bytes,
      Filer.encodeAs codec (render c.runtimeModule a.plan) = .ok bytes ∧
        w'.files.find? a.path = some (some bytes) := by
  have hcollecting := driven_collecting (World.host q) (f := Filer.make dir codec) rfl
    (collecting_fresh c _) calls
  obtain ⟨es, f', hes, hartifacts⟩ :=
    (finish_writesOnly (World.host_orderly q) (t := w.files)
      (s := (driven (World.host q) (fresh c (Filer.make dir codec)) calls, w))
      ⟨hcollecting, w.collected, trivial, rfl, rfl⟩).of_ok hrun
  intro a ha
  rw [hartifacts] at ha
  obtain ⟨emission, hemission, hresult⟩ := List.mem_map.1 (mem_accepted.1 ha)
  obtain ⟨hplanned, hplan⟩ := hes.planned emission hemission
  rw [(hplan a hresult).1] at hplanned
  obtain ⟨d, hmake⟩ := hplanned.exists_make
  exact ⟨hmake ▸ Plan.make_sound _ _ _, hes.find?_artifact emission hemission a hresult⟩

/-- Where the name of its group is a qualified name, the file of an artifact is read as the text
that was rendered exactly when its bytes are UTF-8 for it. Of the encodings of this library these
are UTF-8, and one byte for each character where all of them are plain ones. Names that can be
written bring no carriage return, and who imports the module then sees the identifiers of the
plan. -/
theorem written_modules_read_back {σ : Type} (q : Provider σ) (c : Config) (dir : Path)
    (codecs : Codecs) (calls : List (Call (World σ) × World σ)) {w w' : World σ}
    {result : PassResult} {p' : Pass}
    (hrun : (finish (World.host q)).run
      (driven (World.host q) (fresh c (Filer.make dir (codecs c.encoding))) calls, w) =
        (.ok result, p', w')) :
    ∀ a ∈ result.artifacts,
      QualifiedName.ofTexts? a.plan.group.module a.plan.group.qualname = .ok a.plan.group →
      ∃ k bytes, codecs c.encoding = .ok k ∧
        k.encode (render c.runtimeModule a.plan) = .ok bytes ∧
        w'.files.find? a.path = some (some bytes) ∧
        ReadsBack codecs k (render c.runtimeModule a.plan) bytes ∧
        (Plain c.runtimeModule a.plan.factoryName a.plan.targets → a.plan.Unshadowed →
          '\r' ∉ (render c.runtimeModule a.plan).toList ∧
          (decodeSource codecs bytes = some (render c.runtimeModule a.plan) →
            ∀ classes, (∀ t ∈ a.plan.targets, Present classes t) →
              ∃ m, (decodeSource codecs bytes).map (Generated.ofText classes) = some (.ok m) ∧
                m.identifiers = .tuple (a.plan.identifiers.map .text))) := by
  intro a ha hname
  obtain ⟨hsound, bytes, hencode, hfind⟩ := artifacts_encoded q c dir _ calls hrun a ha
  obtain ⟨k, hk, hbytes⟩ := Filer.exists_of_encodeAs hencode
  exact ⟨k, bytes, hk, hbytes, hfind, (opens_of_ofTexts? _ hname).readsBack hbytes,
    fun hplain hopen => ⟨carriage_notMem_render (legible_of_unshadowed hsound hplain hopen)
      (notMem_group_text hplain (by decide) (by decide)),
      fun hread classes hpresent =>
        identifiers_of_decodeSource hsound hplain hopen hpresent hread⟩⟩

/-! ### An accent -/

/-- An identifier that is two characters, or the two bytes of one character. -/
def accented : Declaration := served "Drink" "Drink.Tea" "Ã©"

def cafe : Store := Store.ofDeclarations [offered "Drink", accented]

def cafeConfig (encoding : String) : Config :=
  { Config.standard with encoding }

def cafeCalls : List (Call (World Store) × World Store) :=
  [(.process [pure (some accented)] false, World.start cafe FileTree.empty)]

def cafePass (encoding : String) : Pass :=
  driven (World.host Store.provider)
    (fresh (cafeConfig encoding) (Filer.make ⟨"", ["out"]⟩ (Encoding.codecs encoding))) cafeCalls

def cafePlan (identifier : String) : Plan where
  group := ⟨"shop", "Drink"⟩
  groupBound := "Drink"
  factoryName := "DrinkFactory"
  moduleName := "drink_factory"
  imports := [⟨"shop", "Drink", none⟩]
  branches := [⟨identifier, ⟨"shop", "Drink.Tea"⟩, "Drink.Tea"⟩]

def cafeText (identifier : String) : String :=
  render Config.standard.runtimeModule (cafePlan identifier)

def cafeGroup : Group :=
  ⟨"shop.Drink", Ordered.ofList [("Ã©", ⟨"Ã©", "shop.Drink", accented⟩)]⟩

def cafeRun (encoding : String) : Except Fault PassResult × Pass × World Store :=
  (finish (World.host Store.provider)).run (cafePass encoding, World.start cafe FileTree.empty)

def cafeArtifact : Artifact :=
  ⟨"drink_factory", ⟨"", ["out", "drink_factory.py"]⟩, cafePlan "Ã©"⟩

theorem make_cafePlan :
    Plan.make Naming.standard ⟨"shop", "Drink"⟩ cafeGroup.records = cafePlan "Ã©" := by
  decide +kernel

theorem cafeText_artifact (encoding : String) :
    render (cafeConfig encoding).runtimeModule cafeArtifact.plan = cafeText "Ã©" := rfl

theorem cafeRun_ok {encoding : String} {bytes : Bytes}
    (h : Filer.encodeAs (Encoding.codecs encoding) (cafeText "Ã©") = .ok bytes) :
    ∃ result p' w', cafeRun encoding = (.ok result, p', w') ∧
      cafeArtifact ∈ result.artifacts := by
  have hopen : (cafePass encoding).registry.beginEmission = .ok ⟨[cafeGroup], .emitting⟩ := by rfl
  have hconfig : (cafePass encoding).config = cafeConfig encoding := by rfl
  have hfiler : (cafePass encoding).filer =
      Filer.make ⟨"", ["out"]⟩ (Encoding.codecs encoding) := by rfl
  have hplan : (planGroup (World.host Store.provider).provider (cafePass encoding).config.naming
      cafeGroup).run (World.start cafe FileTree.empty) =
        (.ok (cafePlan "Ã©"), World.start cafe FileTree.empty) := by
    have hmade := planGroup_answer (q := (World.host Store.provider).provider) (g := cafeGroup)
      (s := World.start cafe FileTree.empty) (d := offered "Drink") (by decide) (by rfl)
      Naming.standard
    rw [hconfig]
    exact Prod.ext (hmade.trans (congrArg Except.ok make_cafePlan)) rfl
  have hpath : (Filer.make ⟨"", ["out"]⟩ (Encoding.codecs encoding)).pathFor "drink_factory" =
      .ok ⟨"", ["out", "drink_factory.py"]⟩ := by rfl
  have hwrite := Filer.write_eq (t := FileTree.empty) hpath (by rfl) (by rfl) (by decide) h (by rfl)
  have htext : cafeText "Ã©" = render (cafePass encoding).config.runtimeModule (cafePlan "Ã©") := by
    rw [hconfig]
    rfl
  have hgo : ((cafePass encoding).config.failFast && (cafePass encoding).failed) = false := by
    rw [hconfig]
    rfl
  rw [← hfiler, htext] at hwrite
  unfold cafeRun
  generalize cafePass encoding = p at hopen hgo hplan hwrite ⊢
  have hend := @finish_one _ _ _ _ _ _ _ (.ok ⟨"", ["out", "drink_factory.py"]⟩) _ _ hopen
    hgo hplan hwrite
  obtain ⟨result, ⟨p', w'⟩, hrun, hartifacts⟩ := hend.exists_ok fun _ _ h => h
  exact ⟨result, p', w', hrun, hartifacts ▸ List.mem_cons_self⟩

theorem forall_mem_cafeText {P : Char → Prop} [DecidablePred P] {identifier : String}
    (hend : P '\n')
    (h : (lines Config.standard.runtimeModule (cafePlan identifier)).all
      (fun l => l.toList.all fun x => decide (P x)) = true) :
    ∀ x ∈ (cafeText identifier).toList, P x :=
  forall_mem_join (fun _ hx => List.mem_singleton.1 hx ▸ hend) fun l hl =>
    forall_mem_of_all (List.all_eq_true.1 h l hl)

theorem cafeText_two : ∀ x ∈ (cafeText "Ã©").toList, x.toNat < 256 :=
  forall_mem_cafeText (by decide) (by decide +kernel)

theorem cafeText_one : ∀ x ∈ (cafeText "é").toList, x ≠ '\r' ∧ x ≠ 'Ã' :=
  forall_mem_cafeText (by decide) (by decide +kernel)

/-- What one byte for each character makes of the two is UTF-8 for the one. -/
theorem bytesOf_cafeText :
    Encoding.latin1.bytesOf (cafeText "Ã©").toList = Encoding.utf8.bytesOf (cafeText "é").toList :=
  bytesOf_join (by decide) (by decide +kernel)

theorem ofTexts?_cafe :
    QualifiedName.ofTexts? "shop" "Drink" = .ok (⟨"shop", "Drink"⟩ : QualifiedName) := by rfl

def cafeClasses : Classes := fun c =>
  [⟨"shop", "Drink"⟩, ⟨"shop", "Drink.Tea"⟩].contains c

/-- In UTF-8 the accented identifier comes back. -/
theorem accent_reads_back :
    ∃ result p' w', cafeRun "utf-8" = (.ok result, p', w') ∧ cafeArtifact ∈ result.artifacts ∧
      ∃ bytes m, w'.files.find? cafeArtifact.path = some (some bytes) ∧
        decodeSource Encoding.codecs bytes = some (cafeText "Ã©") ∧
        (decodeSource Encoding.codecs bytes).map (Generated.ofText cafeClasses) = some (.ok m) ∧
        m.identifiers = .tuple [.text "Ã©"] := by
  obtain ⟨bytes, hbytes⟩ := Filer.encodeAs_utf8 (cafeText "Ã©")
  obtain ⟨result, p', w', hrun, hmem⟩ := cafeRun_ok hbytes
  obtain ⟨k, bytes', hk, -, hfind, hback, hreads⟩ :=
    written_modules_read_back Store.provider (cafeConfig "utf-8") ⟨"", ["out"]⟩ Encoding.codecs
      cafeCalls hrun cafeArtifact hmem ofTexts?_cafe
  have hutf8 : Encoding.codecs "utf-8" = .ok (Encoding.toCodec .utf8) := by rfl
  obtain rfl : k = Encoding.toCodec .utf8 := Except.ok.inj (hk.symm.trans hutf8)
  have hplain : Plain Config.standard.runtimeModule "DrinkFactory" (cafePlan "Ã©").targets :=
    ⟨by decide, by decide, ⟨⟨by decide, by decide⟩, by decide⟩⟩
  have hopen : (cafePlan "Ã©").Unshadowed :=
    ⟨by decide, by decide, by decide, fun h => absurd rfl h⟩
  obtain ⟨hends, hsees⟩ := hreads hplain hopen
  have hread := (hback.known .utf8 rfl).2 ⟨hends, .inl trivial⟩
  obtain ⟨m, hm, hids⟩ := hsees hread cafeClasses (by decide)
  exact ⟨result, p', w', hrun, hmem, bytes', m, hfind, hread, hm, hids⟩

/-- One byte for each of its two characters, it comes back as another identifier. -/
theorem accent_reads_back_as_another :
    ∃ result p' w', cafeRun "latin-1" = (.ok result, p', w') ∧ cafeArtifact ∈ result.artifacts ∧
      ∃ bytes, w'.files.find? cafeArtifact.path = some (some bytes) ∧
        decodeSource Encoding.codecs bytes = some (cafeText "é") ∧
        decodeSource Encoding.codecs bytes ≠ some (cafeText "Ã©") := by
  have hlatin : ∀ x ∈ (cafeText "Ã©").toList, (Encoding.latin1.charBytes? x).isSome = true := by
    intro x hx
    rw [Encoding.charBytes?, if_pos (cafeText_two x hx)]
    rfl
  have hbytes : Encoding.latin1.encode (cafeText "Ã©") =
      .ok (Encoding.latin1.bytesOf (cafeText "Ã©").toList) :=
    Encoding.encode_ok_iff.2 ⟨(List.nil_append _).symm, hlatin⟩
  have hencode : Filer.encodeAs (Encoding.codecs "latin-1") (cafeText "Ã©") =
      .ok (Encoding.latin1.bytesOf (cafeText "Ã©").toList) := by
    have hcodec : Encoding.codecs "latin-1" = .ok (Encoding.toCodec .latin1) := by rfl
    rw [hcodec]
    exact Filer.encodeAs_toCodec hbytes
  obtain ⟨result, p', w', hrun, hmem⟩ := cafeRun_ok hencode
  obtain ⟨-, bytes, hown, hfind⟩ :=
    artifacts_encoded Store.provider (cafeConfig "latin-1") ⟨"", ["out"]⟩
      (Encoding.codecs "latin-1") cafeCalls hrun cafeArtifact hmem
  rw [cafeText_artifact] at hown
  rw [Except.ok.inj (hown.symm.trans hencode)] at hfind
  have hread : decodeSource Encoding.codecs (Encoding.latin1.bytesOf (cafeText "Ã©").toList) =
      some (cafeText "é") := by
    have hends : '\r' ∉ (cafeText "é").toList := fun h => (cafeText_one '\r' h).1 rfl
    have hopens : Opens (cafeText "é").toList :=
      opens_of_ofTexts? Config.standard.runtimeModule (p := cafePlan "é") ofTexts?_cafe
    rw [bytesOf_cafeText, hopens.decodeSource_utf8, unifyLineEnds_eq_self_iff.2 hends,
      String.ofList_toList]
  refine ⟨result, p', w', hrun, hmem, _, hfind, hread, fun hsame => ?_⟩
  have htwo : 'Ã' ∈ (cafeText "Ã©").toList :=
    mem_join "\n" (identifiers_mem_lines _ _) (by decide +kernel)
  rw [← Option.some.inj (hread.symm.trans hsame)] at htwo
  exact (cafeText_one 'Ã' htwo).2 rfl

end Pass

end Foundry

import DocStore.Proofs.Reading.Records
import DocStore.Repository
import Mathlib.Tactic.TFAE

/-!
# The checks of settings agree

Settings are checked in several places, each of which looks at some of them: the validation at all,
the logger at the level, the store at the page size, the loader at the batch size and the start of a
session at the name. The written form of settings is read back to them, so it is refused exactly if
the settings are. No settings pass one of the checks and fail another one behind it.
-/
namespace DocStore.Proofs.Settings.Agreement

open Json (Reader)
open Reading.Numerals (Ends run_integer)
open Reading.Records (Fills Follows Takes objectText)
open Reading.Texts (bytesOf run_text)

variable {settings : Settings}

/-! ## The written form -/

theorem ends_of_follows {b : UInt8} (h : Follows b) : Ends b := by
  rcases h with rfl | rfl <;> exact ⟨by decide, by decide, by decide, by decide⟩

/-- A slot takes what its reader reads. -/
theorem takes_of_run {α : Type} {name : String} {read : Reader α}
    {make : Settings → α → Settings} {broken : Option ReadFault} {value : List Char} {result : α}
    (h : ∀ b rest, Follows b →
      read.run broken (bytesOf value ++ b :: rest) = .ok (result, b :: rest))
    (record : Settings) :
    Takes ⟨name, false, fun s => do return make s (← read)⟩ broken record value
      (make record result) := by
  intro b rest hb
  change (read >>= fun a => pure (make record a)).run _ _ = _
  rw [Reader.run_bind, h b rest hb]
  rfl

theorem run_renderText (text : String) (broken : Option ReadFault) (b : UInt8)
    (rest : List UInt8) (_ : Follows b) :
    Reader.text.run broken (bytesOf (Json.renderText text) ++ b :: rest) = .ok (text, b :: rest) :=
  run_text text broken (b :: rest)

theorem run_size (size : UInt64) (broken : Option ReadFault) (b : UInt8) (rest : List UInt8)
    (hb : Follows b) :
    Settings.size.run broken (bytesOf (Nat.toDigits 10 size.toNat) ++ b :: rest)
      = .ok (size, b :: rest) := by
  have hlt := size.toNat_lt
  have hrun : (Reader.integer 0 0xFFFFFFFFFFFFFFFF "usize").run broken
      (bytesOf (Nat.toDigits 10 size.toNat) ++ b :: rest) = .ok ((size.toNat : Int), b :: rest) :=
    run_integer hlt (by omega) (by omega) "usize" (ends_of_follows hb) broken rest
  unfold Settings.size
  rw [Reader.run_bind, hrun]
  simp

theorem fills_written (settings : Settings) (broken : Option ReadFault) :
    Fills Settings.layout broken [] Settings.standard settings.written settings := by
  refine .field rfl (by decide) (takes_of_run (run_renderText _ _) _) ?_
  refine .field rfl (by decide) (takes_of_run (run_renderText _ _) _) ?_
  refine .field rfl (by decide) (takes_of_run (run_size _ _) _) ?_
  refine .field rfl (by decide) (takes_of_run (run_size _ _) _) ?_
  refine .field rfl (by decide) (takes_of_run (run_renderText _ _) _) ?_
  exact .done rfl

theorem render_eq (settings : Settings) :
    settings.render = String.ofList (objectText settings.written) := rfl

/-- What is read of the written settings is the settings, checked. -/
theorem ofText_render (settings : Settings) :
    Settings.ofText settings.render = settings.validate.map fun _ => settings := by
  rw [Settings.ofText, render_eq, (fills_written settings none).ofText]

theorem ofText_render_eq_ok_iff {result : Settings} :
    Settings.ofText settings.render = .ok result ↔
      settings.validate = .ok () ∧ result = settings := by
  rw [ofText_render, map_eq_ok_iff]
  constructor
  · rintro ⟨_, hvalid, rfl⟩
    exact ⟨hvalid, rfl⟩
  · rintro ⟨hvalid, rfl⟩
    exact ⟨(), hvalid, rfl⟩

/-! ## The checks -/

/-- Settings with which each part of a repository can run. -/
structure Sound (settings : Settings) : Prop where
  engine : settings.engine = Settings.memoryEngine
  storeName : Text.allBlank settings.storeName = false
  batchSize : 0 < settings.batchSize.toNat
  pageSize : 0 < settings.pageSize.toNat
  level : ∃ level, settings.level = .ok level

theorem toNat_pos_iff {size : UInt64} : 0 < size.toNat ↔ size ≠ 0 := by
  rw [Nat.pos_iff_ne_zero, ne_eq, ne_eq, ← UInt64.toNat_inj]
  rfl

theorem validate_eq_ok_iff : settings.validate = .ok () ↔ Sound settings := by
  constructor
  · intro h
    unfold Settings.validate at h
    split_ifs at h with hengine hname hbatch hpage
    obtain ⟨level, hlevel, -⟩ := map_eq_ok_iff.1 h
    exact ⟨not_not.1 hengine, Bool.eq_false_iff.2 hname, toNat_pos_iff.2 hbatch,
      toNat_pos_iff.2 hpage, level, hlevel⟩
  · intro h
    obtain ⟨level, hlevel⟩ := h.level
    unfold Settings.validate
    rw [if_neg (not_not.2 h.engine), h.storeName, if_neg Bool.false_ne_true,
      if_neg (toNat_pos_iff.1 h.batchSize), if_neg (toNat_pos_iff.1 h.pageSize), hlevel]
    rfl

/-- What sound settings open. -/
def Sound.repository (h : Sound settings) : Repository where
  store := ⟨none, 0, settings.pageSize.toNat, h.pageSize⟩
  joins := []
  loader := ⟨settings.batchSize.toNat, h.batchSize⟩

theorem Sound.withLogger (h : Sound settings) :
    ∃ logger, (Repository.withLogger settings).result = .ok (h.repository, logger) := by
  obtain ⟨level, hlevel⟩ := h.level
  have hopened : (Repository.openStore settings).result = .ok h.repository.store := by
    simp only [Repository.openStore, validate_eq_ok_iff.2 h, Store.ofSettings, dif_pos h.pageSize]
    rfl
  have hrepository : (Repository.ofSettings settings).result = .ok h.repository := by
    simp only [Repository.ofSettings, hopened]
    simp only [Except.bind, Repository.ofStore, Loader.ofSize, dif_pos h.batchSize]
    rfl
  refine ⟨.new level .console, ?_⟩
  simp only [Repository.withLogger, Settings.logger, hlevel, Except.map, hrepository]

theorem Sound.start (h : Sound settings) (label : String) :
    (h.repository.start settings.storeName label).result = .ok () := by
  simp [Repository.start, Store.start, Sound.repository, h.storeName]

/-- Nothing is opened on settings that are not valid. -/
theorem validate_of_withLogger {opened : Repository × Logger}
    (h : (Repository.withLogger settings).result = .ok opened) : settings.validate = .ok () := by
  cases hvalid : settings.validate with
  | ok _ => rfl
  | error fault =>
    have hrefused : (Repository.ofSettings settings).result = .error (.settings fault) := by
      simp only [Repository.ofSettings, Repository.openStore, hvalid]
      rfl
    unfold Repository.withLogger at h
    split at h
    · cases h
    · simp only [hrefused] at h
      cases h

/-- Sound settings, valid settings, settings whose written form is read, and settings that open a
repository are the same ones. What is read is the settings themselves. The repository that they open
can be started with their name, and its batches and pages have the sizes that they say, which are
not zero. -/
theorem settings_checks_agree (settings : Settings) :
    [Sound settings,
      settings.validate = .ok (),
      ∃ result, Settings.ofText settings.render = .ok result,
      Settings.ofText settings.render = .ok settings,
      ∃ opened, (Repository.withLogger settings).result = .ok opened].TFAE ∧
    ∀ repository logger, (Repository.withLogger settings).result = .ok (repository, logger) →
      (∀ label, (repository.start settings.storeName label).result = .ok ()) ∧
      repository.loader.batchSize = settings.batchSize.toNat ∧ 1 ≤ repository.loader.batchSize ∧
      repository.store.pageSize = settings.pageSize.toNat ∧ 1 ≤ repository.store.pageSize := by
  constructor
  · tfae_have 1 ↔ 2 := validate_eq_ok_iff.symm
    tfae_have 2 → 4 := fun hvalid => ofText_render_eq_ok_iff.2 ⟨hvalid, rfl⟩
    tfae_have 4 → 3 := fun hread => ⟨settings, hread⟩
    tfae_have 3 → 2 := by
      rintro ⟨result, hread⟩
      exact (ofText_render_eq_ok_iff.1 hread).1
    tfae_have 1 → 5 := by
      intro hsound
      obtain ⟨logger, hopened⟩ := hsound.withLogger
      exact ⟨_, hopened⟩
    tfae_have 5 → 2 := by
      rintro ⟨opened, hopened⟩
      exact validate_of_withLogger hopened
    tfae_finish
  · intro repository logger hopened
    have hsound := validate_eq_ok_iff.1 (validate_of_withLogger hopened)
    obtain ⟨logger', hopened'⟩ := hsound.withLogger
    obtain ⟨rfl, -⟩ := Prod.mk.inj (Except.ok.inj (hopened.symm.trans hopened'))
    exact ⟨hsound.start, rfl, hsound.batchSize, rfl, hsound.pageSize⟩

theorem standard_settings_open :
    Settings.ofText Settings.standard.render = .ok Settings.standard ∧
    ∃ repository logger,
      (Repository.withLogger Settings.standard).result = .ok (repository, logger) ∧
      (∀ label, (repository.start "joinbase" label).result = .ok ()) ∧
      repository.loader.batchSize = 100 ∧ repository.store.pageSize = 100 := by
  obtain ⟨hagree, hopens⟩ := settings_checks_agree Settings.standard
  have hsound : Sound Settings.standard :=
    ⟨rfl, by decide, by decide, by decide, .warn, rfl⟩
  obtain ⟨⟨repository, logger⟩, hopened⟩ := (hagree.out 0 4).1 hsound
  obtain ⟨hstart, hbatch, -, hpage, -⟩ := hopens repository logger hopened
  exact ⟨(hagree.out 0 3).1 hsound, repository, logger, hopened, hstart, hbatch, hpage⟩

end DocStore.Proofs.Settings.Agreement

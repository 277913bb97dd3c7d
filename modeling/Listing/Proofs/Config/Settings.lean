import Mathlib
import Listing.Config.Settings

/-!
# The settings of an environment

Each setting is read from its own variable, and settings are made of those that can be read only.
-/

namespace Listing.Settings

lemma load_eq_ok_iff {env : Environment} {settings : Settings} :
    load env = .ok settings ↔
      settings.database = env.getAnyCase? .databaseUrl ∧
        setting env .logLevel .info readLevel = .ok settings.logLevel ∧
        setting env .maxLimit 100 readMaxLimit = .ok settings.maxLimit := by
  obtain ⟨database, logLevel, maxLimit⟩ := settings
  rw [load]
  cases setting env .logLevel Level.info readLevel <;>
    cases setting env .maxLimit 100 readMaxLimit <;> simp [eq_comm]

lemma readMaxLimit_pos {t : Text} {n : ℕ} (h : readMaxLimit t = .ok n) : 0 < n := by
  rw [readMaxLimit] at h
  split at h
  · cases h
  · next m _ =>
    split at h
    · cases h
    · next hpos =>
      have hm : m.toNat = n := Except.ok.inj h
      omega

/-- **The greatest page size is positive**, whatever the environment. -/
lemma maxLimit_pos {env : Environment} {settings : Settings} (h : load env = .ok settings) :
    0 < settings.maxLimit := by
  have hread := (load_eq_ok_iff.1 h).2.2
  rw [setting] at hread
  split at hread
  · have hdefault : 100 = settings.maxLimit := Except.ok.inj hread
    omega
  · exact readMaxLimit_pos hread

end Listing.Settings

import MessageRefs.Proofs.Json.Record
import MessageRefs.Proofs.Session.Run
import Mathlib.Data.List.Induction

/-!
**A server is as the last setups left it.**

Only a setup that is answered with success changes a server. It can give a configuration, settings,
or both, and what it does not give stays as it was.

* `Part`: a part of a server that a setup can give, and where it is written;
* `Server.configure_yields`: what one setup comes to for each part;
* `Server.exists_configure_iff`: when a setup succeeds;
* `IsAccepted`: a setup that is answered with success;
* `IsLatest`: the part that the last accepted setup to give it gave;
* `Session.run_isLatest`: at each point of a session, each part is the latest.
-/

namespace MessageRefs

/-- A part of a server that a setup can give: the field where it is written, the place of that field
in an array, how it is read, and what it is at first. -/
structure Part (α : Type) where
  name : String
  place : Nat
  decoder : Json.Decoder α
  standard : α
  of : Server → α

namespace Part

/-- The configuration of the matcher. -/
def config : Part MatcherConfig :=
  ⟨"matcher", 0, MatcherConfig.decoder, {}, fun server => server.matcher.config⟩

/-- The settings. -/
def settings : Part ServerSettings :=
  ⟨"settings", 1, ServerSettings.decoder, {}, Server.settings⟩

variable {α : Type}

/-- What is written for a part in the parameters of a setup. -/
def written? (part : Part α) : Json → Option Json
  | .object fields => fields.lookup part.name
  | .array items => items[part.place]?
  | _ => none

/-- The parameters of a setup give a part: something other than null is written for it. -/
def IsGiven (part : Part α) (params written : Json) : Prop :=
  part.written? params = some written ∧ written ≠ .null

/-- What the parameters of a setup come to for a part: what they give, or what it was. -/
inductive Yields (part : Part α) (params : Json) (old : α) : α → Prop
  | kept (notGiven : ∀ written, ¬ part.IsGiven params written) : Yields part params old old
  | given {written : Json} {value : α} (given : part.IsGiven params written)
      (read : part.decoder written = .ok value) : Yields part params old value

end Part

/-! ### One setup -/

namespace Params.Setup

variable {params : Json} {source : Json.Source}

/-- A field of a setup yields its part, where the parameters are read from a source. -/
theorem yields_of_field {α : Type} {part : Part α} {found : Option α} (old : α)
    (same : part.written? params = source.get? part.name part.place)
    (read : (Json.Record.field part.name (.optional part.decoder) (some none)).read source
      part.place = .ok found) :
    part.Yields params old (found.getD old) := by
  rcases Json.Record.optionalField_read_eq_ok_iff.mp read with
    ⟨onlyNull, rfl⟩ | ⟨written, present, notNull, value, decoded, rfl⟩
  · exact .kept fun written given => given.2 (onlyNull written (same ▸ given.1))
  · exact .given ⟨same.trans present, notNull⟩ decoded

theorem yields_of_read {setup : Params.Setup} (config : MatcherConfig) (settings : ServerSettings)
    (configAt : Part.config.written? params = source.get? "matcher" 0)
    (settingsAt : Part.settings.written? params = source.get? "settings" 1)
    (read : (Params.Setup.mk
        <$> .field "matcher" (.optional MatcherConfig.decoder) (some none)
        <*> .field "settings" (.optional ServerSettings.decoder) (some none)
          : Json.Record Params.Setup).read source 0 = .ok setup) :
    Part.config.Yields params config (setup.matcher.getD config) ∧
      Part.settings.Yields params settings (setup.settings.getD settings) := by
  obtain ⟨apply, readApply, _, second, rfl⟩ := Json.Record.seq_read_eq_ok_iff.mp read
  obtain ⟨_, first, rfl⟩ := Json.Record.map_read_eq_ok_iff.mp readApply
  exact ⟨yields_of_field config configAt first, yields_of_field settings settingsAt second⟩

/-- The setup that parameters write; null writes one that gives nothing. -/
inductive IsWritten : Json → Params.Setup → Prop
  | null : IsWritten .null {}
  | record {params : Json} {setup : Params.Setup} (read : decoder params = .ok setup) :
      IsWritten params setup

/-- A setup yields its parts, whether it is read by name or by place. -/
theorem IsWritten.yields {setup : Params.Setup} (written : IsWritten params setup)
    (config : MatcherConfig) (settings : ServerSettings) :
    Part.config.Yields params config (setup.matcher.getD config) ∧
      Part.settings.Yields params settings (setup.settings.getD settings) := by
  cases written with
  | null =>
    have nothing {α : Type} (part : Part α) (found : Json) : ¬ part.IsGiven .null found :=
      fun given => nomatch given.1
    exact ⟨.kept (nothing _), .kept (nothing _)⟩
  | record read =>
    rcases Json.Record.decoder_eq_ok_iff.mp read with
      ⟨known, rfl, readFrom⟩ | ⟨items, rfl, -, readFrom⟩
    · exact yields_of_read config settings rfl rfl readFrom
    · exact yields_of_read config settings rfl rfl readFrom

end Params.Setup

namespace Matcher

theorem config_of_ofConfig {config : MatcherConfig} {matcher : Matcher}
    (built : ofConfig config = .ok matcher) : matcher.config = config := by
  unfold ofConfig at built
  split at built
  · obtain rfl := Except.ok.inj built
    rfl
  · cases built

theorem ofConfig_config (matcher : Matcher) : ofConfig matcher.config = .ok matcher := by
  unfold ofConfig
  split
  · exact congrArg _ matcher.eq_ofValid.symm
  · next error invalid =>
    rw [matcher.valid] at invalid
    cases invalid

theorem exists_ofConfig_iff {config : MatcherConfig} :
    (∃ matcher, ofConfig config = .ok matcher) ↔ config.validate = .ok () := by
  constructor
  · rintro ⟨matcher, built⟩
    exact config_of_ofConfig built ▸ matcher.valid
  · exact fun valid => ⟨_, ofConfig_config (ofValid config valid)⟩

end Matcher

/-- Parameters that can be taken over: they write a setup whose configuration, if it gives one, is
valid. -/
def Params.IsSound (params : Json) : Prop :=
  ∃ setup, Params.Setup.IsWritten params setup ∧
    ∀ config ∈ setup.matcher, config.validate = .ok ()

/-- A part that is as setups say: it is as at first in a fresh server, and a setup that succeeds
makes it what its parameters come to. -/
structure Part.Follows {α : Type} (part : Part α) : Prop where
  fresh : part.of {} = part.standard
  configured : ∀ {server changed : Server} {params : Json}, server.configure params = .ok changed →
    part.Yields params (part.of server) (part.of changed)

namespace Server

variable {server changed : Server} {params : Json} {setup : Params.Setup} {config : MatcherConfig}

theorem exists_isWritten_of_configure (configured : server.configure params = .ok changed) :
    ∃ setup, Params.Setup.IsWritten params setup := by
  cases read : Params.Setup.decoder params with
  | ok setup => exact ⟨setup, .record read⟩
  | error error =>
    unfold configure at configured
    cases params with
    | null => exact ⟨{}, .null⟩
    | _ => simp [read] at configured

theorem configure_of_none (written : Params.Setup.IsWritten params setup)
    (absent : setup.matcher = none) :
    server.configure params = .ok ⟨server.matcher, setup.settings.getD server.settings⟩ := by
  cases written with
  | null => rfl
  | record read =>
    unfold configure
    cases params with
    | null => cases read
    | _ => simp [read, absent]

theorem configure_of_some (written : Params.Setup.IsWritten params setup)
    (given : setup.matcher = some config) :
    server.configure params
      = ((Matcher.ofConfig config).map fun matcher =>
          ⟨matcher, setup.settings.getD server.settings⟩).mapError ConfigError.message := by
  cases written with
  | null => cases given
  | record read =>
    unfold configure
    cases params with
    | null => cases read
    | _ =>
      simp only [read, given]
      cases Matcher.ofConfig config <;> rfl

/-- A setup succeeds exactly if its parameters can be taken over, whatever the server is. -/
theorem exists_configure_iff :
    (∃ changed, server.configure params = .ok changed) ↔ Params.IsSound params := by
  constructor
  · rintro ⟨changed, configured⟩
    obtain ⟨setup, written⟩ := exists_isWritten_of_configure configured
    refine ⟨setup, written, fun config given => ?_⟩
    rw [configure_of_some written given, Json.mapError_eq_ok_iff, Json.map_eq_ok_iff] at configured
    obtain ⟨matcher, built, -⟩ := configured
    exact Matcher.exists_ofConfig_iff.mp ⟨matcher, built⟩
  · rintro ⟨setup, written, valid⟩
    cases given : setup.matcher with
    | none => exact ⟨_, configure_of_none written given⟩
    | some config =>
      obtain ⟨matcher, built⟩ := Matcher.exists_ofConfig_iff.mpr (valid config given)
      exact ⟨_, by rw [configure_of_some written given, built]; rfl⟩

/-- A setup that succeeds does to each part what its parameters say. -/
theorem configure_yields (configured : server.configure params = .ok changed) :
    Part.config.Yields params server.matcher.config changed.matcher.config ∧
      Part.settings.Yields params server.settings changed.settings := by
  obtain ⟨setup, written⟩ := exists_isWritten_of_configure configured
  have yields := written.yields server.matcher.config server.settings
  cases given : setup.matcher with
  | none =>
    rw [configure_of_none written given] at configured
    obtain rfl := Except.ok.inj configured
    rw [given] at yields
    exact yields
  | some config =>
    rw [configure_of_some written given, Json.mapError_eq_ok_iff, Json.map_eq_ok_iff] at configured
    obtain ⟨matcher, built, rfl⟩ := configured
    rw [given, Option.getD_some, ← Matcher.config_of_ofConfig built] at yields
    exact yields

end Server

theorem Part.config_follows : Part.config.Follows :=
  ⟨rfl, fun configured => (Server.configure_yields configured).1⟩

theorem Part.settings_follows : Part.settings.Follows :=
  ⟨rfl, fun configured => (Server.configure_yields configured).2⟩

/-! ### One delivery -/

/-- A setup that is put to a server and answered with success. -/
structure IsAccepted (files : Workspace.FileSystem) (server : Server) (request : Request) :
    Prop where
  served : request.IsServed
  method : request.method = "initialize"
  success : ∃ result, (server.dispatch files request.method request.params).2 = .ok result

namespace Server

variable {files : Workspace.FileSystem} {server : Server}

theorem dispatch_initialize (params : Json) :
    server.dispatch files "initialize" params
      = match server.configure params with
        | .ok changed => (changed, .ok (greeting changed.settings))
        | .error message => (server, .error ⟨.invalidParams, message⟩) := rfl

theorem dispatch_fst_of_ne {method : String} (other : method ≠ "initialize") (params : Json) :
    (server.dispatch files method params).1 = server := by
  unfold dispatch
  split
  · exact absurd rfl other
  all_goals rfl

theorem configure_of_isAccepted {request : Request} (accepted : IsAccepted files server request) :
    server.configure request.params = .ok (next files server (.ok request)) := by
  obtain ⟨result, success⟩ := accepted.success
  rw [next_of_isServed accepted.served]
  rw [accepted.method, dispatch_initialize] at success ⊢
  cases configured : server.configure request.params with
  | ok changed => rfl
  | error message =>
    rw [configured] at success
    cases success

theorem isAccepted_iff {request : Request} :
    IsAccepted files server request ↔
      request.IsServed ∧ request.method = "initialize" ∧ Params.IsSound request.params := by
  constructor
  · intro accepted
    exact ⟨accepted.served, accepted.method,
      exists_configure_iff.mp ⟨_, configure_of_isAccepted accepted⟩⟩
  · rintro ⟨served, method, sound⟩
    obtain ⟨changed, configured⟩ := exists_configure_iff.mpr sound
    refine ⟨served, method, greeting changed.settings, ?_⟩
    rw [method, dispatch_initialize, configured]

/-- A delivery that is no accepted setup leaves the server as it is. -/
theorem next_of_not_isAccepted {delivery : Delivery}
    (notAccepted : ∀ request, delivery = .ok request → ¬ IsAccepted files server request) :
    next files server delivery = server := by
  cases delivery with
  | error error => rfl
  | ok request =>
    by_cases served : request.IsServed
    · rw [next_of_isServed served]
      by_cases method : request.method = "initialize"
      · have fails := fun success => notAccepted request rfl ⟨served, method, success⟩
        rw [method, dispatch_initialize] at fails ⊢
        cases configured : server.configure request.params with
        | ok changed => exact absurd ⟨_, by rw [configured]⟩ fails
        | error message => rfl
      · exact dispatch_fst_of_ne method request.params
    · exact next_of_not_isServed served

end Server

/-! ### All that a session was delivered -/

section

variable {α : Type} (files : Workspace.FileSystem) (part : Part α)

/-- A delivery gives a part: it is an accepted setup in whose parameters something is written for
the part. -/
def IsGiver (handled : List Delivery) (delivery : Delivery) (written : Json) : Prop :=
  ∃ request, delivery = .ok request ∧ IsAccepted files (Server.behind files handled) request ∧
    part.IsGiven request.params written

/-- The value of a part behind several deliveries: the one that the last of them to give the part
gave, or the standard one if none gave it. -/
inductive IsLatest (handled : List Delivery) : α → Prop
  | standard (notGiven : Throughout handled fun before delivery =>
        ∀ written, ¬ IsGiver files part before delivery written) :
      IsLatest handled part.standard
  | given {before behind : List Delivery} {delivery : Delivery} {written : Json} {value : α}
      (split : handled = before ++ delivery :: behind)
      (gives : IsGiver files part before delivery written)
      (read : part.decoder written = .ok value)
      (notGiven : Throughout behind fun between later =>
        ∀ written, ¬ IsGiver files part (before ++ delivery :: between) later written) :
      IsLatest handled value

variable {files part} {handled : List Delivery} {delivery : Delivery} {value : α}

theorem IsLatest.append_other (latest : IsLatest files part handled value)
    (notGiven : ∀ written, ¬ IsGiver files part handled delivery written) :
    IsLatest files part (handled ++ [delivery]) value := by
  cases latest with
  | standard before => exact .standard (throughout_append_singleton.mpr ⟨before, notGiven⟩)
  | given split gives read later =>
    subst split
    refine .given (by rw [List.append_assoc, List.cons_append]) gives read ?_
    exact throughout_append_singleton.mpr ⟨later, notGiven⟩

theorem IsLatest.append_accepted {request : Request} {old : α}
    (latest : IsLatest files part handled old)
    (accepted : IsAccepted files (Server.behind files handled) request)
    (yields : part.Yields request.params old value) :
    IsLatest files part (handled ++ [.ok request]) value := by
  cases yields with
  | kept notGiven =>
    refine latest.append_other ?_
    rintro written ⟨other, same, -, given⟩
    obtain rfl := Except.ok.inj same
    exact notGiven written given
  | given given read =>
    exact .given rfl ⟨request, rfl, accepted, given⟩ read throughout_nil

/-- **Behind any deliveries, a part of the server is the latest.** -/
theorem isLatest_behind (follows : part.Follows) (handled : List Delivery) :
    IsLatest files part handled (part.of (Server.behind files handled)) := by
  induction handled using List.reverseRecOn with
  | nil =>
    have fresh : part.of (Server.behind files []) = part.standard := follows.fresh
    rw [fresh]
    exact .standard throughout_nil
  | append_singleton handled delivery latest =>
    rw [Server.behind_append_singleton]
    by_cases accepted : ∃ request, delivery = .ok request ∧
        IsAccepted files (Server.behind files handled) request
    · obtain ⟨request, rfl, accepted⟩ := accepted
      exact latest.append_accepted accepted
        (follows.configured (Server.configure_of_isAccepted accepted))
    · rw [Server.next_of_not_isAccepted fun request same isAccepted =>
        accepted ⟨request, same, isAccepted⟩]
      refine latest.append_other ?_
      rintro written ⟨request, same, isAccepted, -⟩
      exact accepted ⟨request, same, isAccepted⟩

end

namespace Session

/-- **A server is as the last setups left it.** A session handles a first part of what the stream
delivers, and behind any first part of that its configuration and its settings are the latest, each
for itself; its matcher is the one of its configuration, which is valid, and looks for the anchor
with a dot. A setup is accepted if it is put to the server and its parameters can be taken over, and
nothing but an accepted setup changes the server, whatever becomes of the responses. -/
theorem run_isLatest (files : Workspace.FileSystem) (failure? : Nat → Option String)
    (events : List Event) :
    ∃ handled left, deliveries events = handled ++ left ∧
      Handles files failure? handled left (run files failure? events) ∧
      ∀ before behind, handled = before ++ behind →
        IsLatest files Part.config before (Server.behind files before).matcher.config ∧
        IsLatest files Part.settings before (Server.behind files before).settings ∧
        (Server.behind files before).matcher.config.validate = .ok () ∧
        Matcher.ofConfig (Server.behind files before).matcher.config
          = .ok (Server.behind files before).matcher ∧
        (Server.behind files before).matcher.lead
          = (Server.behind files before).matcher.config.anchor.toList ++ ['.'] ∧
        (∀ request, IsAccepted files (Server.behind files before) request ↔
          request.IsServed ∧ request.method = "initialize" ∧ Params.IsSound request.params) ∧
        ∀ delivery, (∀ request, delivery = .ok request →
            ¬ IsAccepted files (Server.behind files before) request) →
          Server.behind files (before ++ [delivery]) = Server.behind files before := by
  obtain ⟨handled, left, split, handles⟩ := exists_handles_run files failure? events
  refine ⟨handled, left, split, handles, fun before behind _ => ?_⟩
  refine ⟨isLatest_behind Part.config_follows before, isLatest_behind Part.settings_follows before,
    (Server.behind files before).matcher.valid, Matcher.ofConfig_config _,
    (Server.behind files before).matcher.lead_eq, fun request => Server.isAccepted_iff,
    fun delivery notAccepted => ?_⟩
  rw [Server.behind_append_singleton, Server.next_of_not_isAccepted notAccepted]

end Session

end MessageRefs

import AmqpReturns.Settings.Basic

/-!
# Proofs — whose URI it is

The URI of settings is their parts in a row, each as it is (`uri_toList`).  Nothing tells a `:` of
the user or of the password from the one between them, an `@` of the password or of the host from
the one between these, or a port with its slash in the host or in the virtual host from the port
itself (`joined_colon`, `joined_at`, `joined_port`).  So the same text may be the URI of several
servers, and it is that of one server alone just when none of these stands in the parts
(`uri_unique_iff`).  Settings that keep those characters to a few places (`IsDelimited`) may still
have a URI in common with settings that do not, but not with each other (`IsDelimited.sameServer`).
-/

namespace AmqpReturns

namespace Settings

/-- The settings lead to the same server, and to the same account there. -/
structure SameServer (s t : Settings) : Prop where
  user : s.user = t.user
  password : s.password = t.password
  host : s.host = t.host
  port : s.port = t.port
  vhost : s.vhost = t.vhost

/-! ### The text of a URI -/

/-- The decimal digits of a port. -/
def portText (n : UInt16) : List Char :=
  Nat.toDigits 10 n.toNat

theorem not_mem_portText {c : Char} (hc : c.isDigit = false) (n : UInt16) : c ∉ portText n := by
  intro h
  have hd : c.isDigit = true := Nat.isDigit_of_mem_toDigits (by decide) (by decide) h
  rw [hc] at hd
  cases hd

theorem portText_injective {n m : UInt16} (h : portText n = portText m) : n = m := by
  have hv := congrArg (Nat.ofDigitChars 10 · 0) h
  simp only [portText, Nat.ofDigitChars_ten_toDigits] at hv
  exact UInt16.toNat_inj.mp hv

/-- The host, the port and the virtual host in a row. -/
def serverText (host : List Char) (n : UInt16) (vhost : List Char) : List Char :=
  host ++ ':' :: (portText n ++ '/' :: vhost)

/-- All parts of a URI in a row. -/
def joined (user password host : List Char) (n : UInt16) (vhost : List Char) : List Char :=
  user ++ ':' :: (password ++ '@' :: serverText host n vhost)

/-- What follows the scheme in the URI of settings. -/
def text (s : Settings) : List Char :=
  joined s.user.toList s.password.toList s.host.toList s.port s.vhost.toList

theorem uri_toList (s : Settings) : s.uri.toList = "amqp://".toList ++ s.text := by
  delta uri
  simp [text, joined, serverText, portText, Nat.toString_eq_repr, Nat.toList_repr]

theorem uri_eq_uri_iff (s t : Settings) : s.uri = t.uri ↔ s.text = t.text := by
  rw [← String.toList_inj, uri_toList, uri_toList, List.append_cancel_left_eq]

theorem SameServer.text_eq {s t : Settings} (h : s.SameServer t) : s.text = t.text := by
  rw [text, h.user, h.password, h.host, h.port, h.vhost]
  rfl

/-! ### Cuts -/

section

variable {a b m r : List Char} {c d : Char}

/-- A text cut at `c` and again at `d`, where no `d` stands before the first cut: the second cut
is the first, or it is farther on. -/
theorem cut_cases (hd : d ∉ a) (h : a ++ c :: b = m ++ d :: r) :
    (m = a ∧ c = d ∧ r = b) ∨ ∃ e, m = a ++ c :: e ∧ b = e ++ d :: r := by
  rcases List.append_eq_append_iff.mp h with ⟨e, rfl, he⟩ | ⟨e, rfl, he⟩
  · cases e with
    | nil =>
      obtain ⟨rfl, rfl⟩ := List.cons.inj he
      exact .inl ⟨List.append_nil a, rfl, rfl⟩
    | cons x e =>
      obtain ⟨rfl, rfl⟩ := List.cons.inj he
      exact .inr ⟨e, rfl, rfl⟩
  · cases e with
    | nil =>
      obtain ⟨rfl, rfl⟩ := List.cons.inj he
      exact .inl ⟨(List.append_nil m).symm, rfl, rfl⟩
    | cons x e =>
      obtain ⟨rfl, -⟩ := List.cons.inj he
      exact absurd (by simp) hd

/-- A cut at another character is farther on. -/
theorem cut_past (hd : d ∉ a) (hcd : c ≠ d) (h : a ++ c :: b = m ++ d :: r) :
    ∃ e, m = a ++ c :: e ∧ b = e ++ d :: r := by
  rcases cut_cases hd h with ⟨-, heq, -⟩ | he
  · exact absurd heq hcd
  · exact he

/-- A text has one first cut. -/
theorem cut_inj (ha : c ∉ a) (hm : c ∉ m) (h : a ++ c :: b = m ++ c :: r) : m = a ∧ r = b := by
  rcases cut_cases ha h with ⟨rfl, -, rfl⟩ | ⟨e, rfl, -⟩
  · exact ⟨rfl, rfl⟩
  · exact absurd (by simp) hm

/-- A text has one last cut. -/
theorem cut_inj_last (hb : c ∉ b) (hr : c ∉ r) (h : a ++ c :: b = m ++ c :: r) :
    m = a ∧ r = b := by
  have hrev : b.reverse ++ c :: a.reverse = r.reverse ++ c :: m.reverse := by
    simpa using congrArg List.reverse h
  obtain ⟨hrb, hma⟩ := cut_inj (by simpa using hb) (by simpa using hr) hrev
  exact ⟨List.reverse_inj.mp hma, List.reverse_inj.mp hrb⟩

end

/-! ### Settings that no others can be taken for -/

/-- A `:`, a port and a `/` stand in it. -/
def HoldsPort (cs : List Char) : Prop :=
  ∃ before n after, cs = serverText before n after

theorem not_holdsPort {cs : List Char} (h : ':' ∉ cs) : ¬ HoldsPort cs := by
  rintro ⟨before, n, after, rfl⟩
  exact h (by simp [serverText])

/-- Nothing in the parts looks like what stands between the parts. -/
structure IsUnmistakable (s : Settings) : Prop where
  user : ':' ∉ s.user.toList
  password : ':' ∉ s.password.toList ∧ '@' ∉ s.password.toList
  host : '@' ∉ s.host.toList ∧ ¬ HoldsPort s.host.toList
  vhost : ¬ HoldsPort s.vhost.toList

section

variable {host host' vhost vhost' : List Char} {n n' : UInt16}

theorem portText_cut (h : portText n ++ '/' :: vhost = portText n' ++ '/' :: vhost') :
    n' = n ∧ vhost' = vhost := by
  obtain ⟨hn, hv⟩ := cut_inj (not_mem_portText rfl n) (not_mem_portText rfl n') h
  exact ⟨portText_injective hn, hv⟩

/-- The port begins where it does, if neither the host nor the virtual host holds another. -/
theorem serverText_cut (hh : ¬ HoldsPort host) (hv : ¬ HoldsPort vhost)
    (h : serverText host n vhost = serverText host' n' vhost') :
    host' = host ∧ n' = n ∧ vhost' = vhost := by
  rcases List.append_eq_append_iff.mp h with ⟨m, rfl, hm⟩ | ⟨m, rfl, hm⟩
  · cases m with
    | nil => exact ⟨List.append_nil host, portText_cut (List.cons.inj hm).2⟩
    | cons x m =>
      -- The other port begins in the virtual host.
      obtain ⟨rfl, hlater⟩ := List.cons.inj hm
      obtain ⟨e, -, rfl⟩ := cut_past (not_mem_portText rfl n) (by decide) hlater
      exact absurd ⟨e, n', vhost', rfl⟩ hv
  · cases m with
    | nil =>
      obtain ⟨rfl, rfl⟩ := portText_cut (List.cons.inj hm).2
      exact ⟨(List.append_nil host').symm, rfl, rfl⟩
    | cons x m =>
      -- The other port begins in the host.
      obtain ⟨rfl, hlater⟩ := List.cons.inj hm
      obtain ⟨e, rfl, -⟩ := cut_past (not_mem_portText rfl n') (by decide) hlater
      exact absurd ⟨host', n', e, rfl⟩ hh

/-- The server begins where it does, if no `@` but the one before it could be that one. -/
theorem password_cut {password password' : List Char} (hp : '@' ∉ password) (hh : '@' ∉ host)
    (hv : ¬ HoldsPort vhost)
    (h : password ++ '@' :: serverText host n vhost =
      password' ++ '@' :: serverText host' n' vhost') :
    password' = password ∧ serverText host n vhost = serverText host' n' vhost' := by
  rcases cut_cases hp h with ⟨rfl, -, hs⟩ | ⟨e, -, hs⟩
  · exact ⟨rfl, hs.symm⟩
  · -- The other `@` is behind the port, in the virtual host, and a port follows it there.
    obtain ⟨e, -, hs⟩ := cut_past hh (by decide) hs
    obtain ⟨e, -, rfl⟩ := cut_past (not_mem_portText rfl n) (by decide) hs
    refine absurd ⟨e ++ '@' :: host', n', vhost', ?_⟩ hv
    rw [serverText, serverText, List.append_assoc, List.cons_append]

end

/-- Parts of a URI that look like nothing else are the only ones it has. -/
theorem IsUnmistakable.sameServer {s t : Settings} (hs : s.IsUnmistakable) (h : t.uri = s.uri) :
    t.SameServer s := by
  have htext : s.text = t.text := ((uri_eq_uri_iff t s).mp h).symm
  rcases cut_cases hs.user htext with ⟨hu, -, hrest⟩ | ⟨e, -, hrest⟩
  · obtain ⟨hp, hserver⟩ := password_cut hs.password.2 hs.host.1 hs.vhost hrest.symm
    obtain ⟨hh, hn, hv⟩ := serverText_cut hs.host.2 hs.vhost hserver
    exact ⟨String.toList_inj.mp hu, String.toList_inj.mp hp, String.toList_inj.mp hh, hn,
      String.toList_inj.mp hv⟩
  · -- The other user ends in the password.
    have hcut : s.password.toList ++ '@' :: serverText s.host.toList s.port s.vhost.toList =
        (e ++ ':' :: t.password.toList) ++
          '@' :: serverText t.host.toList t.port t.vhost.toList := by
      rw [hrest, List.append_assoc, List.cons_append]
    obtain ⟨hp, -⟩ := password_cut hs.password.2 hs.host.1 hs.vhost hcut
    exact absurd (hp ▸ by simp) hs.password.1

/-! ### Settings that others can be taken for -/

section

variable (user a b password host vhost : List Char) (m n : UInt16)

theorem joined_colon :
    joined user (a ++ ':' :: b) host n vhost = joined (user ++ ':' :: a) b host n vhost := by
  simp [joined]

theorem joined_at : joined user password (a ++ '@' :: b) n vhost =
    joined user (password ++ '@' :: a) b n vhost := by
  simp [joined, serverText]

theorem joined_port : joined user password (serverText a m b) n vhost =
    joined user password a m (serverText b n vhost) := by
  simp [joined, serverText]

end

/-- Settings whose URI is that of no other server have no other parts to be joined of. -/
theorem eq_parts {s : Settings} (h : ∀ t : Settings, t.uri = s.uri → t.SameServer s)
    {user password host vhost : List Char} {n : UInt16}
    (hj : joined user password host n vhost = s.text) :
    user = s.user.toList ∧ password = s.password.toList ∧ host = s.host.toList ∧
      vhost = s.vhost.toList := by
  let t : Settings :=
    { s with
      user := .ofList user
      password := .ofList password
      host := .ofList host
      port := n
      vhost := .ofList vhost }
  have ht : t.text = s.text := by
    rw [← hj]
    simp only [text, t, String.toList_ofList]
  have hs := h t ((uri_eq_uri_iff t s).mpr ht)
  refine ⟨?_, ?_, ?_, ?_⟩
  · rw [← hs.user, String.toList_ofList]
  · rw [← hs.password, String.toList_ofList]
  · rw [← hs.host, String.toList_ofList]
  · rw [← hs.vhost, String.toList_ofList]

/-- Where something in the parts looks like what stands between them, the text can be joined of
other parts. -/
theorem isUnmistakable_of_unique {s : Settings}
    (h : ∀ t : Settings, t.uri = s.uri → t.SameServer s) : s.IsUnmistakable where
  user hmem := by
    obtain ⟨a, b, hab⟩ := List.append_of_mem hmem
    have hj : joined a (b ++ ':' :: s.password.toList) s.host.toList s.port s.vhost.toList =
        s.text := by
      rw [joined_colon, ← hab, text]
    have hu := (eq_parts h hj).1
    simp [hab] at hu
  password := by
    constructor
    · intro hmem
      obtain ⟨a, b, hab⟩ := List.append_of_mem hmem
      have hj : joined (s.user.toList ++ ':' :: a) b s.host.toList s.port s.vhost.toList =
          s.text := by
        rw [← joined_colon, ← hab, text]
      have hu := (eq_parts h hj).1
      simp at hu
    · intro hmem
      obtain ⟨a, b, hab⟩ := List.append_of_mem hmem
      have hj : joined s.user.toList a (b ++ '@' :: s.host.toList) s.port s.vhost.toList =
          s.text := by
        rw [joined_at, ← hab, text]
      have hp := (eq_parts h hj).2.1
      simp [hab] at hp
  host := by
    constructor
    · intro hmem
      obtain ⟨a, b, hab⟩ := List.append_of_mem hmem
      have hj : joined s.user.toList (s.password.toList ++ '@' :: a) b s.port s.vhost.toList =
          s.text := by
        rw [← joined_at, ← hab, text]
      have hp := (eq_parts h hj).2.1
      simp at hp
    · rintro ⟨a, m, b, hab⟩
      have hj : joined s.user.toList s.password.toList a m
          (serverText b s.port s.vhost.toList) = s.text := by
        rw [← joined_port, ← hab, text]
      have hh := (eq_parts h hj).2.2.1
      simp [hab, serverText] at hh
  vhost := by
    rintro ⟨a, m, b, hab⟩
    have hj : joined s.user.toList s.password.toList (serverText s.host.toList s.port a) m b =
        s.text := by
      rw [joined_port, ← hab, text]
    have hh := (eq_parts h hj).2.2.1
    simp [serverText] at hh

/-- A URI is that of one server just when nothing in the parts looks like what stands between
them. -/
theorem uri_unique_iff (s : Settings) :
    (∀ t : Settings, t.uri = s.uri → t.SameServer s) ↔ s.IsUnmistakable :=
  ⟨isUnmistakable_of_unique, fun hs _ ht => hs.sameServer ht⟩

/-! ### Delimited settings -/

/-- The parts keep what stands between them out of the places where a text is cut at it: at the
first `/`, before that at the last `@`, and before that at the first `:`. -/
structure IsDelimited (s : Settings) : Prop where
  user : ':' ∉ s.user.toList ∧ '/' ∉ s.user.toList
  password : '/' ∉ s.password.toList
  host : '@' ∉ s.host.toList ∧ '/' ∉ s.host.toList

/-- What stands before the virtual host and its slash in the URI of settings. -/
def authority (s : Settings) : List Char :=
  (s.user.toList ++ ':' :: s.password.toList) ++
    '@' :: (s.host.toList ++ ':' :: portText s.port)

theorem text_eq_authority (s : Settings) : s.text = s.authority ++ '/' :: s.vhost.toList := by
  simp [text, joined, serverText, authority]

theorem not_mem_append_cons {a b : List Char} {c d : Char} (ha : c ∉ a) (hd : c ≠ d)
    (hb : c ∉ b) : c ∉ a ++ d :: b := by
  simp [ha, hd, hb]

namespace IsDelimited

variable {s t : Settings}

/-- The slash before the virtual host is the first. -/
theorem not_mem_authority (h : s.IsDelimited) : '/' ∉ s.authority :=
  not_mem_append_cons (not_mem_append_cons h.user.2 (by decide) h.password) (by decide)
    (not_mem_append_cons h.host.2 (by decide) (not_mem_portText rfl _))

/-- The `@` before the host is the last of the authority. -/
theorem not_mem_server (h : s.IsDelimited) : '@' ∉ s.host.toList ++ ':' :: portText s.port :=
  not_mem_append_cons h.host.1 (by decide) (not_mem_portText rfl _)

/-- Among delimited settings a URI belongs to one server. -/
theorem sameServer (hs : s.IsDelimited) (ht : t.IsDelimited) (h : t.uri = s.uri) :
    t.SameServer s := by
  have htext : s.authority ++ '/' :: s.vhost.toList = t.authority ++ '/' :: t.vhost.toList := by
    rw [← text_eq_authority, ← text_eq_authority, (uri_eq_uri_iff t s).mp h]
  obtain ⟨hauthority, hv⟩ := cut_inj hs.not_mem_authority ht.not_mem_authority htext
  obtain ⟨hcredentials, hserver⟩ :=
    cut_inj_last hs.not_mem_server ht.not_mem_server hauthority.symm
  obtain ⟨hu, hp⟩ := cut_inj hs.user.1 ht.user.1 hcredentials.symm
  obtain ⟨hh, hn⟩ :=
    cut_inj_last (not_mem_portText rfl s.port) (not_mem_portText rfl t.port) hserver.symm
  exact ⟨String.toList_inj.mp hu, String.toList_inj.mp hp, String.toList_inj.mp hh,
    portText_injective hn, String.toList_inj.mp hv⟩

end IsDelimited

/-- **Whose URI it is.**  The URI of settings is that of no other server just when nothing in the
parts looks like what stands between them.  Among settings whose parts keep that out of the places
where a text is cut, it is that of one server. -/
theorem uri_identifies_server (s : Settings) :
    ((∀ t : Settings, t.uri = s.uri → t.SameServer s) ↔ s.IsUnmistakable) ∧
      (s.IsDelimited → ∀ t : Settings, t.IsDelimited → (t.uri = s.uri ↔ t.SameServer s)) := by
  refine ⟨uri_unique_iff s, fun hs t ht => ⟨hs.sameServer ht, fun h => ?_⟩⟩
  exact (uri_eq_uri_iff t s).mpr h.text_eq

theorem default_isUnmistakable : default.IsUnmistakable where
  user := by decide
  password := by decide
  host := ⟨by decide, not_holdsPort (by decide)⟩
  vhost := not_holdsPort (by decide)

/-- The default settings have a URI of their own.  A colon and an `@` in a password are not taken
for those around it, where users and hosts hold none. -/
theorem uri_identifies_server_local :
    let s : Settings := { default with password := "s:cr@t" }
    let t : Settings := { default with password := "s:cr", host := "t" }
    (default.IsUnmistakable ∧ ∀ t : Settings, t.uri = default.uri → t.SameServer default) ∧
      s.IsDelimited ∧ t.IsDelimited ∧ t.uri ≠ s.uri := by
  intro s t
  have hs : s.IsDelimited := ⟨by decide, by decide, by decide⟩
  have ht : t.IsDelimited := ⟨by decide, by decide, by decide⟩
  refine ⟨⟨default_isUnmistakable, (uri_identifies_server default).1.mpr default_isUnmistakable⟩,
    hs, ht, fun h => ?_⟩
  exact absurd (((uri_identifies_server s).2 hs t ht).mp h).host (by decide)

/-- One URI of two servers: by a `:` in a user, by an `@` in a password, by a `/` in a host. -/
theorem uri_shared :
    let colon : Settings := { default with user := "a:b", password := "c" }
    let colon' : Settings := { default with user := "a", password := "b:c" }
    let sign : Settings := { default with password := "p@h" }
    let sign' : Settings := { default with password := "p", host := "h@localhost" }
    let slash : Settings := { default with host := "a:1/b" }
    let slash' : Settings := { default with host := "a", port := 1, vhost := "b:5672/%2f" }
    (colon.uri = colon'.uri ∧ ¬ colon.SameServer colon') ∧
      (sign.uri = sign'.uri ∧ ¬ sign.SameServer sign') ∧
      (slash.uri = slash'.uri ∧ ¬ slash.SameServer slash') := by
  intro colon colon' sign sign' slash slash'
  refine ⟨⟨by decide, fun h => absurd h.user (by decide)⟩,
    ⟨by decide, fun h => absurd h.password (by decide)⟩,
    ⟨by decide, fun h => absurd h.host (by decide)⟩⟩

end Settings

end AmqpReturns

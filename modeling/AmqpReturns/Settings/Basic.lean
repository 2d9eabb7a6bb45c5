import AmqpReturns.Bus.Event

/-!
# Settings

Where the broker is, how to log on, and the defaults of the bus.
-/

namespace AmqpReturns

/-- The settings of a connection and of the bus behind it. -/
structure Settings where
  /-- The name of the application, which is also the name of its connections. -/
  appName : String
  host : String
  port : UInt16
  user : String
  password : String
  /-- The virtual host, as it stands in a URI. -/
  vhost : String
  /-- The encoding given to messages that come back. -/
  defaultEncoding : String
  /-- Whether endpoints are to publish as mandatory unless told otherwise. -/
  mandatory : Bool
  deriving DecidableEq, Repr

namespace Settings

/-- The settings of a broker on this machine. -/
def default : Settings :=
  { appName := "amqp-connector"
    host := "localhost"
    port := 5672
    user := "guest"
    password := "guest"
    vhost := "%2f"
    defaultEncoding := "UTF-8"
    mandatory := true }

instance : Inhabited Settings := ⟨default⟩

/-- The URI of the broker.  The parts stand in it as they are. -/
def uri (s : Settings) : String :=
  "amqp://" ++ s.user ++ ":" ++ s.password ++ "@" ++ s.host ++ ":" ++ toString s.port.toNat ++
    "/" ++ s.vhost

/-- The context of the bus behind a connection. -/
def busContext (s : Settings) : BusContext :=
  ⟨s.defaultEncoding⟩

/-! ### Fields -/

/-- The fields of the settings, in the order in which a list gives them. -/
inductive Field where
  | appName
  | host
  | port
  | user
  | password
  | vhost
  | defaultEncoding
  | mandatory
  deriving DecidableEq, Repr

/-- Every field. -/
def Field.all : List Field :=
  [.appName, .host, .port, .user, .password, .vhost, .defaultEncoding, .mandatory]

/-- The name of a field in a document. -/
def Field.name : Field → String
  | .appName => "app_name"
  | .host => "host"
  | .port => "port"
  | .user => "user"
  | .password => "password"
  | .vhost => "vhost"
  | .defaultEncoding => "default_encoding"
  | .mandatory => "mandatory"

/-- The field of that name. -/
def Field.ofName? (name : String) : Option Field :=
  Field.all.find? (·.name = name)

/-- The type of a field's value. -/
def Field.Value : Field → Type
  | .port => UInt16
  | .mandatory => Bool
  | .appName | .host | .user | .password | .vhost | .defaultEncoding => String

/-- The settings with another value in one field. -/
def set (s : Settings) : (f : Field) → f.Value → Settings
  | .appName, v => { s with appName := v }
  | .host, v => { s with host := v }
  | .port, v => { s with port := v }
  | .user, v => { s with user := v }
  | .password, v => { s with password := v }
  | .vhost, v => { s with vhost := v }
  | .defaultEncoding, v => { s with defaultEncoding := v }
  | .mandatory, v => { s with mandatory := v }

/-- The value of a field. -/
def get (s : Settings) : (f : Field) → f.Value
  | .appName => s.appName
  | .host => s.host
  | .port => s.port
  | .user => s.user
  | .password => s.password
  | .vhost => s.vhost
  | .defaultEncoding => s.defaultEncoding
  | .mandatory => s.mandatory

theorem get_set_self (s : Settings) (f : Field) (v : f.Value) : (s.set f v).get f = v := by
  cases f <;> rfl

theorem get_set_of_ne (s : Settings) {f g : Field} (v : f.Value) (h : g ≠ f) :
    (s.set f v).get g = s.get g := by
  cases f <;> cases g <;> first | rfl | exact absurd rfl h

end Settings

end AmqpReturns

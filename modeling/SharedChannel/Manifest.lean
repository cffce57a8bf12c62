/-!
What the package offers: its version and its public names in alphabetical order.
-/

namespace SharedChannel.Manifest

def version : String := "0.1.0"

def publicNames : List String := [
  "Client", "ClientOptions", "DialOption", "Endpoint", "InvalidEndpointError", "Option",
  "SERVICES", "ServiceDescriptor", "StaticTokenSource", "Token", "TokenCredentials",
  "TokenSource", "TokenSourceInitializer", "TransportSecurity", "TransportSecurityError",
  "ZitadelClientError", "pat", "transport_credentials", "with_auth", "with_block",
  "with_channel_option", "with_compression", "with_extra_transport_options",
  "with_grpc_dial_options", "with_insecure", "with_interceptors", "with_port",
  "with_user_agent"]

end SharedChannel.Manifest

import ApiGateway.Database

/-!
# Tables with their foreign keys

The tables the gateway reads and the table of destinations, with the references that
the schema declares. A service is of a product, an endpoint and a destination are of a
service, a permission is of a client for an endpoint; a profile may be of a service.
-/

namespace ApiGateway

/-- A destination row of a service. -/
structure ServiceDestination where
  id : Guid
  serviceId : Guid
  destinationName : Text
  address : Text
  isEnabled : Bool
deriving DecidableEq

/-- The tables with the references between them. -/
structure LinkedDatabase extends Database where
  serviceDestinations : List ServiceDestination
  serviceDestinations_id : (serviceDestinations.map ServiceDestination.id).Nodup
  serviceDestinations_name :
    (serviceDestinations.map (fun row => (row.serviceId, row.destinationName))).Nodup
  services_product : ∀ row ∈ services, row.productId ∈ products.map Product.id
  endpoints_service : ∀ row ∈ endpoints, row.serviceId ∈ services.map Service.id
  clientPermissions_client : ∀ row ∈ clientPermissions, row.clientId ∈ clients.map Client.id
  clientPermissions_endpoint :
    ∀ row ∈ clientPermissions, row.endpointId ∈ endpoints.map Endpoint.id
  userProfiles_service :
    ∀ row ∈ userProfiles, ∀ service ∈ row.serviceId, service ∈ services.map Service.id
  serviceDestinations_service :
    ∀ row ∈ serviceDestinations, row.serviceId ∈ services.map Service.id

end ApiGateway
